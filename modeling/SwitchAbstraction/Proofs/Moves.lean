import SwitchAbstraction.Chassis.Commands
import SwitchAbstraction.Proofs.Construction
import SwitchAbstraction.Proofs.Registry

/-!
# What a command does to a chassis

Every command comes down to a few kinds of moves: an edit of one switch, an
aging pass, a new or an abandoned or a removed switch, a new object, or a
change of test mode.  A move carries all that is known when it is made, so what
every move preserves, every command and every run preserves.
-/

namespace SwitchAbstraction

open Results

/-- The key under which a command may add an entry. -/
def Command.entered? : Command → Option ObjectKey
  | .call (.createEntry key _) => some key
  | .learn key _ => some (.fdb key)
  | _ => none

/-- Whether a command is a message that bypasses the rules for writing. -/
def Command.overrides : Command → Bool
  | .administer message => message.op = Admin.writeOp
  | _ => false

/-- What a command can do to the switch that an id finds, new objects and aging apart. -/
inductive Edit (now : UInt64) (command : Command) (owner : ObjectId) (switch : Switch) :
    Switch → Prop where
  | remove {key : ObjectKey} {next : Switch} (owned : key.switchId = owner)
      (removed : switch.removeObject key = .ok ((), next)) : Edit now command owner switch next
  | write {key : ObjectKey} {attr : Attribute} {readOnly : Bool} (owned : key.switchId = owner)
      (writable : attr.checkWritable key.type readOnly = .ok ())
      (typed : key.type = .fdbEntry → attr.id = .fdbEntryType →
        ∃ type, FdbEntryType.ofValue attr.value = .ok type)
      (stored : switch.contains key = true)
      (bypassed : readOnly = true → command.overrides = true) :
      Edit now command owner switch (switch.write key attr now)
  | refresh {key : ObjectKey} (stored : switch.contains key = true) :
      Edit now command owner switch (switch.refresh key)
  | addEntry {key : ObjectKey} {attrs : List Attribute} {next : Switch}
      (entered : command.entered? = some key) (owned : key.switchId = owner)
      (passed : Chassis.checkNewEntry key attrs = .ok ())
      (added : switch.addEntry key (.ofList attrs) now = .ok ((), next)) :
      Edit now command owner switch next
  | count {key : ObjectKey} (counts : List (Stat × UInt64))
      (stored : switch.contains key = true) :
      Edit now command owner switch (switch.setCounters key counts)
  | flush (filter : FlushFilter) : Edit now command owner switch (switch.flush owner filter).2
  | learn {key : FdbKey} {port : ObjectId} {events : List FdbEvent} {next : Switch}
      (entered : command.entered? = some (.fdb key)) (owned : key.switchId = owner)
      (learned : switch.learn key port now = .ok (events, next)) :
      Edit now command owner switch next

namespace Chassis

/--
The ids that a creation hands out: the id of the new object, or all ids that
are drawn for a new switch, also if there turn out to be too few of them.
-/
def issuedFor (chassis : Chassis) (type : ObjectType) (owner : ObjectId)
    (attrs : List Attribute) : List ObjectId :=
  if type = .switch then
    match checkCreate type attrs, chassis.indexes.allocate with
    | .ok (), .ok (index, _) => (chassis.bootstrap index attrs).issued
    | _, _ => []
  else
    match (chassis.create type owner attrs).1 with
    | .ok id => [id]
    | .error _ => []

/-- The ids that a command hands out. -/
def issued (chassis : Chassis) : Command → List ObjectId
  | .call (.create type owner attrs) => chassis.issuedFor type owner attrs
  | _ => []

/-- The ids that the commands of a history hand out, in order. -/
def issuedBy (chassis : Chassis) : List (UInt64 × Command) → List ObjectId
  | [] => []
  | (now, command) :: rest =>
      chassis.issued command ++ (chassis.step now command).issuedBy rest

end Chassis

/-- What a chassis goes through in a command, with the ids that are handed out. -/
inductive Move (now : UInt64) (command : Command) (chassis : Chassis) :
    Chassis → List ObjectId → Prop where
  | edit {owner : ObjectId} {switch next : Switch}
      (found : chassis.switches.find owner = .ok switch)
      (edit : Edit now command owner switch next) :
      Move now command chassis (chassis.put owner next) []
  | age : Move now command chassis (chassis.age now).state []
  | setTestMode (testMode : Bool) : Move now command chassis { chassis with testMode } []
  | removeSwitch {id : ObjectId} {switch : Switch}
      (found : chassis.switches.find id = .ok switch) :
      Move now command chassis { chassis with switches := chassis.switches.erase id.switchIndex } []
  | createObject {type : ObjectType} {owner id : ObjectId} {attrs : List Attribute}
      {switch equipped next : Switch} {stored : Attributes} {ids : IdAllocator}
      (passed : Chassis.checkCreate type attrs = .ok ()) (counted : type.isCounted = true)
      (found : chassis.switches.find owner = .ok switch)
      (equips : switch.equip type (.ofList attrs) = .ok (stored, equipped))
      (drawn : chassis.ids.allocate owner.switchIndex type = .ok (id, ids))
      (inserted : equipped.insert (.object id) stored = .ok next) :
      Move now command chassis { chassis.put owner next with ids } [id]
  | wasteId {type : ObjectType} {index : UInt8} {id : ObjectId} {ids : IdAllocator}
      (counted : type.isCounted = true)
      (drawn : chassis.ids.allocate index type = .ok (id, ids)) :
      Move now command chassis { chassis with ids } []
  | createSwitch {attrs : List Attribute} {index : UInt8} {indexes : SwitchIndexPool}
      {switch : Switch} {ids : IdAllocator}
      (taken : chassis.indexes.allocate = .ok (index, indexes))
      (built : (chassis.bootstrap index attrs).run = (.ok switch, ids))
      (passed : Chassis.checkCreate .switch attrs = .ok ()) :
      Move now command chassis
        { chassis with ids, indexes, switches := chassis.switches.insert index switch }
        (chassis.bootstrap index attrs).issued
  | abandonSwitch {attrs : List Attribute} {index : UInt8} {indexes : SwitchIndexPool}
      {fault : Fault} {ids : IdAllocator}
      (taken : chassis.indexes.allocate = .ok (index, indexes))
      (refused : (chassis.bootstrap index attrs).run = (.error fault, ids)) :
      Move now command chassis { chassis with ids, indexes } (chassis.bootstrap index attrs).issued

/-- Moves one after another, with all the ids that are handed out. -/
inductive Moves (now : UInt64) (command : Command) :
    Chassis → Chassis → List ObjectId → Prop where
  | refl (chassis : Chassis) : Moves now command chassis chassis []
  | head {first middle last : Chassis} {issued others : List ObjectId}
      (move : Move now command first middle issued) (rest : Moves now command middle last others) :
      Moves now command first last (issued ++ others)

namespace Moves

variable {now : UInt64} {command : Command} {chassis next : Chassis} {ids : List ObjectId}

theorem single (move : Move now command chassis next ids) : Moves now command chassis next ids := by
  have moves := Moves.head move (.refl next)
  rwa [List.append_nil] at moves

theorem append {middle : Chassis} {others : List ObjectId}
    (first : Moves now command chassis middle ids) (rest : Moves now command middle next others) :
    Moves now command chassis next (ids ++ others) := by
  induction first with
  | refl _ => exact rest
  | head move _ ih =>
      rw [List.append_assoc]
      exact .head move (ih rest)

theorem edit {owner : ObjectId} {switch changed : Switch}
    (found : chassis.switches.find owner = .ok switch)
    (edit : Edit now command owner switch changed) :
    Moves now command chassis (chassis.put owner changed) [] :=
  single (.edit found edit)

/-- An operation on one switch makes the moves of the edit that it is. -/
theorem onSwitch {α : Type} {owner : ObjectId}
    {operation : Switch → Except Fault (α × Switch)} {value : α}
    (edits : ∀ {switch changed}, operation switch = .ok (value, changed) →
      Edit now command owner switch changed)
    (done : chassis.onSwitch owner operation = .ok (value, next)) :
    Moves now command chassis next [] := by
  obtain ⟨switch, changed, found, operated, rfl⟩ := Chassis.onSwitch_eq_ok_iff.mp done
  exact .edit found (edits operated)

theorem settled {α β : Type} {attempt : Except Fault (α × Chassis)}
    {answer : Except Fault α → β}
    (moves : ∀ {value changed}, attempt = .ok (value, changed) →
      Moves now command chassis changed []) :
    Moves now command chassis (chassis.settled attempt answer).state [] := by
  unfold Chassis.settled
  cases done : attempt with
  | error fault => exact .refl chassis
  | ok pair => exact moves done

theorem reported {β : Type} {attempt : Except Fault (List FdbEvent × Chassis)}
    {answer : Except Fault Unit → β}
    (moves : ∀ {events changed}, attempt = .ok (events, changed) →
      Moves now command chassis changed []) :
    Moves now command chassis (chassis.reported attempt answer).state [] := by
  unfold Chassis.reported
  cases done : attempt with
  | error fault => exact .refl chassis
  | ok pair => exact moves done

end Moves

/-! ## What a passed check says -/

namespace ObjectKey

theorem checkEntry_eq_ok {key : ObjectKey} (passed : key.checkEntry = .ok ()) :
    key.id? = none ∧ key.switchId.type? = some .switch := by
  obtain ⟨_, _, rest⟩ := bind_eq_ok_iff.mp passed
  split at rest
  · cases rest
  · next structural =>
      refine ⟨?_, (ObjectId.expectType_eq_ok_iff (by decide)).mp rest⟩
      cases named : key.id? with
      | none => rfl
      | some id => simp [named] at structural

end ObjectKey

namespace Chassis

variable {chassis : Chassis} {key : ObjectKey} {attr : Attribute} {now : UInt64}
  {command : Command}

/-- A write passes exactly if its value does and its object is there. -/
theorem checkWrite_eq_ok_iff {readOnly : Bool} :
    chassis.checkWrite readOnly key attr = .ok () ↔
      attr.checkWritable key.type readOnly = .ok () ∧
      (key.type = .fdbEntry → attr.id = .fdbEntryType →
        ∃ type, FdbEntryType.ofValue attr.value = .ok type) ∧
      ∃ switch, chassis.switches.find key.switchId = .ok switch ∧
        switch.contains key = true := by
  constructor
  · intro passed
    obtain ⟨_, writable, rest⟩ := bind_eq_ok_iff.mp passed
    split at rest
    · obtain ⟨_, typed, rest⟩ := bind_eq_ok_iff.mp rest
      obtain ⟨switch, found, there⟩ := bind_eq_ok_iff.mp rest
      exact ⟨writable, fun _ _ => discard_eq_ok_iff.mp typed, switch, found,
        Switch.require_eq_ok_iff.mp there⟩
    · next other =>
        obtain ⟨switch, found, there⟩ := bind_eq_ok_iff.mp rest
        exact ⟨writable, fun entry typing => absurd ⟨entry, typing⟩ other, switch, found,
          Switch.require_eq_ok_iff.mp there⟩
  · rintro ⟨writable, typed, switch, found, there⟩
    have rest : (chassis.switches.find key.switchId >>= fun switch => switch.require key) =
        .ok () := bind_eq_ok_iff.mpr ⟨switch, found, Switch.require_eq_ok_iff.mpr there⟩
    refine bind_eq_ok_iff.mpr ⟨(), writable, ?_⟩
    split
    · next typing =>
        exact bind_eq_ok_iff.mpr ⟨(), discard_eq_ok_iff.mpr (typed typing.1 typing.2), rest⟩
    · exact rest

/-- A write to an object that is there is a write to its switch. -/
theorem write_eq_put {switch : Switch} (found : chassis.switches.find key.switchId = .ok switch) :
    chassis.write key attr now = chassis.put key.switchId (switch.write key attr now) := by
  obtain ⟨_, there⟩ := Registry.find_eq_ok_iff.mp found
  unfold write put
  rw [OrderedMap.modify_of_get? _ there]

theorem setOn_moves {readOnly : Bool} {next : Chassis}
    (bypassed : readOnly = true → command.overrides = true)
    (done : chassis.setOn readOnly key attr now = .ok ((), next)) :
    Moves now command chassis next [] := by
  obtain ⟨_, passed, same⟩ := bind_eq_ok_iff.mp done
  cases same
  obtain ⟨writable, typed, switch, found, there⟩ := checkWrite_eq_ok_iff.mp passed
  rw [write_eq_put found]
  exact .edit found (.write rfl writable typed there bypassed)

/-- Statistics are of the object that the id names, and of its type. -/
theorem statsKey_eq_ok {type : ObjectType} {id : ObjectId} {stats : List Stat}
    (passed : statsKey type id stats = .ok key) :
    key = .object id ∧ id.type? = some type ∧ ∀ stat ∈ stats, stat.objectType = type := by
  obtain ⟨named, given, rest⟩ := bind_eq_ok_iff.mp passed
  obtain ⟨rfl, typed, _⟩ := ObjectKey.ofTypedId_eq_ok given
  cases foreign : stats.find? fun stat => stat.objectType ≠ type with
  | some stat =>
      rw [foreign] at rest
      cases rest
  | none =>
      rw [foreign] at rest
      cases rest
      refine ⟨rfl, typed, ?_⟩
      intro stat member
      have own := List.find?_eq_none.mp foreign stat member
      by_contra other
      exact own (decide_eq_true other)

/-- A read that passes is of an object that is there. -/
theorem checkRead_eq_ok {slots : List Attribute} {switch : Switch}
    (passed : chassis.checkRead key slots = .ok switch) :
    chassis.switches.find key.switchId = .ok switch ∧ switch.contains key = true := by
  unfold checkRead at passed
  split at passed
  · cases passed
  · obtain ⟨found, looked, rest⟩ := bind_eq_ok_iff.mp passed
    obtain ⟨_, there, same⟩ := bind_eq_ok_iff.mp rest
    cases same
    exact ⟨looked, Switch.require_eq_ok_iff.mp there⟩

theorem getOn_moves (slots : List Attribute) :
    Moves now command chassis (chassis.getOn key slots).2 [] := by
  unfold getOn
  cases passed : chassis.checkRead key slots with
  | error fault => exact .refl chassis
  | ok switch =>
      obtain ⟨found, there⟩ := checkRead_eq_ok passed
      exact .edit found (.refresh there)

/-! ## Creations -/

theorem place_eq_ok {switch next : Switch} {ids rest : IdAllocator} {index : UInt8}
    {type : ObjectType} {attrs : Attributes} {id : ObjectId}
    (placed : switch.place ids index type attrs = (.ok (id, next), rest)) :
    ids.allocate index type = .ok (id, rest) ∧
      switch.insert (.object id) attrs = .ok next := by
  unfold Switch.place at placed
  split at placed
  · cases (Prod.mk.inj placed).1
  · next drawn left allocated =>
      obtain ⟨added, rfl⟩ := Prod.mk.inj placed
      obtain ⟨_, inserted, same⟩ := map_eq_ok_iff.mp added
      cases same
      exact ⟨allocated, inserted⟩

/-- When an object finds no place, at most an id was drawn in vain. -/
theorem place_eq_error {switch : Switch} {ids rest : IdAllocator} {index : UInt8}
    {type : ObjectType} {attrs : Attributes} {fault : Fault}
    (placed : switch.place ids index type attrs = (.error fault, rest)) :
    (rest = ids ∧ ids.allocate index type = .error fault) ∨
      ∃ id, ids.allocate index type = .ok (id, rest) ∧
        switch.insert (.object id) attrs = .error fault := by
  unfold Switch.place at placed
  split at placed
  · next refused =>
      obtain ⟨same, rfl⟩ := Prod.mk.inj placed
      cases same
      exact .inl ⟨rfl, refused⟩
  · next drawn left allocated =>
      obtain ⟨added, rfl⟩ := Prod.mk.inj placed
      exact .inr ⟨drawn, allocated, map_eq_error_iff.mp added⟩

/-- All that is known of a creation by id that succeeds. -/
theorem createObject_eq_ok {type : ObjectType} {owner id : ObjectId} {attrs : List Attribute}
    {next : Chassis} (created : chassis.createObject type owner attrs = (.ok id, next)) :
    type.isIdAddressed = true ∧ ∃ switch stored equipped changed ids,
      chassis.switches.find owner = .ok switch ∧
        switch.equip type (.ofList attrs) = .ok (stored, equipped) ∧
        chassis.ids.allocate owner.switchIndex type = .ok (id, ids) ∧
        equipped.insert (.object id) stored = .ok changed ∧
        next = { chassis.put owner changed with ids } := by
  unfold createObject at created
  split at created
  · cases (Prod.mk.inj created).1
  · next addressed =>
      split at created
      · cases (Prod.mk.inj created).1
      · next switch found =>
          split at created
          · cases (Prod.mk.inj created).1
          · next stored equipped equips =>
              split at created
              · cases (Prod.mk.inj created).1
              · next named changed ids placed =>
                  obtain ⟨same, rfl⟩ := Prod.mk.inj created
                  cases same
                  obtain ⟨drawn, inserted⟩ := place_eq_ok placed
                  exact ⟨by simpa using addressed, switch, stored, equipped, changed, ids, found,
                    equips, drawn, inserted, rfl⟩

/-- A creation that succeeds has passed its check, and has made a switch or another object. -/
theorem create_eq_ok {type : ObjectType} {owner id : ObjectId} {attrs : List Attribute}
    {next : Chassis} (created : chassis.create type owner attrs = (.ok id, next)) :
    checkCreate type attrs = .ok () ∧
      (type = .switch → chassis.createSwitch attrs = (.ok id, next)) ∧
      (type ≠ .switch → chassis.createObject type owner attrs = (.ok id, next)) := by
  unfold create at created
  split at created
  · cases (Prod.mk.inj created).1
  · next passed =>
      split at created
      · next isSwitch => exact ⟨passed, fun _ => created, fun other => absurd isSwitch other⟩
      · next other => exact ⟨passed, fun isSwitch => absurd isSwitch other, fun _ => created⟩

/-- A creation by id that fails leaves the chassis as it was, but perhaps for the counter. -/
theorem createObject_eq_error {type : ObjectType} {owner : ObjectId} {attrs : List Attribute}
    {fault : Fault} {next : Chassis}
    (refused : chassis.createObject type owner attrs = (.error fault, next)) :
    next = chassis ∨ (type.isIdAddressed = true ∧ ∃ id ids,
      chassis.ids.allocate owner.switchIndex type = .ok (id, ids) ∧
        next = { chassis with ids }) := by
  unfold createObject at refused
  split at refused
  · exact .inl (Prod.mk.inj refused).2.symm
  · next addressed =>
      split at refused
      · exact .inl (Prod.mk.inj refused).2.symm
      · next switch found =>
          split at refused
          · exact .inl (Prod.mk.inj refused).2.symm
          · next stored equipped equips =>
              split at refused
              · next left placed =>
                  -- The index is given back, so the switch that is put back is the old one.
                  obtain ⟨_, there⟩ := Registry.find_eq_ok_iff.mp found
                  rw [Switch.unequip_of_equip equips, put_of_get? there] at refused
                  have same := (Prod.mk.inj refused).2
                  rcases place_eq_error placed with ⟨rfl, _⟩ | ⟨id, drawn, _⟩
                  · exact .inl same.symm
                  · exact .inr ⟨by simpa using addressed, id, left, drawn, same.symm⟩
              · cases (Prod.mk.inj refused).1

theorem createSwitch_moves (attrs : List Attribute)
    (passed : checkCreate .switch attrs = .ok ()) (owner : ObjectId) :
    Moves now command chassis (chassis.createSwitch attrs).2
      (chassis.issuedFor .switch owner attrs) := by
  unfold createSwitch issuedFor
  rw [if_pos rfl, passed]
  cases taken : chassis.indexes.allocate with
  | error fault => exact .refl chassis
  | ok pair =>
      obtain ⟨index, indexes⟩ := pair
      cases done : (chassis.bootstrap index attrs).run with
      | mk built ids =>
          cases built with
          | error fault => simpa [done] using Moves.single (.abandonSwitch taken done)
          | ok switch => simpa [done] using Moves.single (.createSwitch taken done passed)

theorem create_moves (type : ObjectType) (owner : ObjectId) (attrs : List Attribute) :
    Moves now command chassis (chassis.create type owner attrs).2
      (chassis.issuedFor type owner attrs) := by
  by_cases kind : type = .switch
  · subst kind
    cases passed : checkCreate .switch attrs with
    | error fault =>
        unfold create issuedFor
        simp only [passed, if_true]
        exact .refl chassis
    | ok _ =>
        have moves : Moves now command chassis (chassis.createSwitch attrs).2 _ :=
          createSwitch_moves attrs passed owner
        unfold create
        simpa [passed] using moves
  · unfold issuedFor
    rw [if_neg kind]
    unfold create
    cases passed : checkCreate type attrs with
    | error fault => exact .refl chassis
    | ok _ =>
        simp only [if_neg kind]
        cases done : chassis.createObject type owner attrs with
        | mk result next =>
            cases result with
            | error fault =>
                rcases createObject_eq_error done with rfl | ⟨addressed, id, ids, drawn, rfl⟩
                · exact .refl _
                · exact .single (.wasteId (ObjectType.isCounted_iff.mpr ⟨addressed, kind⟩) drawn)
            | ok id =>
                obtain ⟨addressed, switch, stored, equipped, changed, ids, found, equips, drawn,
                  inserted, rfl⟩ := createObject_eq_ok done
                exact .single (.createObject passed
                  (ObjectType.isCounted_iff.mpr ⟨addressed, kind⟩) found equips drawn inserted)

/-! ## Commands -/

/-- All that is known of a removal by id that succeeds. -/
theorem remove_eq_ok {type : ObjectType} {id : ObjectId} {value : Unit} {next : Chassis}
    (done : chassis.remove type id = .ok (value, next)) :
    (type = .switch ∧ ∃ switch, chassis.switches.find id = .ok switch ∧
      next = { chassis with switches := chassis.switches.erase id.switchIndex }) ∨
    (id.type? = some type ∧ type ≠ .switch ∧ ∃ switch changed,
      chassis.switches.find id.switchId = .ok switch ∧
      switch.removeObject (.object id) = .ok ((), changed) ∧
      next = chassis.put id.switchId changed) := by
  obtain ⟨key, named, rest⟩ := bind_eq_ok_iff.mp done
  obtain ⟨rfl, typed, _⟩ := ObjectKey.ofTypedId_eq_ok named
  split at rest
  · next isSwitch =>
      obtain ⟨⟨switch, switches⟩, taken, same⟩ := bind_eq_ok_iff.mp rest
      cases same
      obtain ⟨found, rfl⟩ := Registry.take_eq_ok_iff.mp taken
      exact .inl ⟨isSwitch, switch, found, rfl⟩
  · next other =>
      obtain ⟨switch, changed, found, removed, rfl⟩ := onSwitch_eq_ok_iff.mp rest
      exact .inr ⟨typed, other, switch, changed, found, removed, rfl⟩

theorem remove_moves {type : ObjectType} {id : ObjectId} {value : Unit} {next : Chassis}
    (done : chassis.remove type id = .ok (value, next)) :
    Moves now command chassis next [] := by
  rcases remove_eq_ok done with
    ⟨_, switch, found, rfl⟩ | ⟨_, _, switch, changed, found, removed, rfl⟩
  · exact .single (.removeSwitch found)
  · exact .edit found (.remove rfl removed)

theorem perform_moves (call : Call) :
    Moves now (.call call) chassis (chassis.perform now call).state
      (chassis.issued (.call call)) := by
  cases call with
  | create type owner attrs => exact create_moves type owner attrs
  | remove type id => exact .settled fun done => remove_moves done
  | set type id attr =>
      refine .settled fun done => ?_
      obtain ⟨key, _, rest⟩ := bind_eq_ok_iff.mp done
      exact setOn_moves (fun impossible => by cases impossible) rest
  | get type id slots =>
      change Moves now _ chassis (chassis.get type id slots).2 []
      unfold get
      cases ObjectKey.ofTypedId type id with
      | error fault => exact .refl chassis
      | ok key => exact getOn_moves slots
  | createEntry key attrs =>
      refine .settled fun done => ?_
      obtain ⟨_, passed, rest⟩ := bind_eq_ok_iff.mp done
      refine .onSwitch (fun {switch changed} added => ?_) rest
      exact .addEntry rfl rfl passed added
  | removeEntry key =>
      refine .settled fun done => ?_
      obtain ⟨_, _, rest⟩ := bind_eq_ok_iff.mp done
      refine .onSwitch (fun {switch changed} removed => ?_) rest
      exact .remove rfl removed
  | setEntry key attr =>
      refine .settled fun done => ?_
      obtain ⟨_, _, rest⟩ := bind_eq_ok_iff.mp done
      exact setOn_moves (fun impossible => by cases impossible) rest
  | getEntry key slots =>
      change Moves now _ chassis (chassis.getEntry key slots).2 []
      unfold getEntry
      cases key.checkEntry with
      | error fault => exact .refl chassis
      | ok _ => exact getOn_moves slots
  | readStats type id stats mode =>
      refine .settled fun done => ?_
      obtain ⟨key, _, rest⟩ := bind_eq_ok_iff.mp done
      refine .onSwitch (fun {switch changed} read => ?_) rest
      obtain ⟨_, there, counted⟩ := bind_eq_ok_iff.mp read
      cases mode with
      | read =>
          cases counted
          exact .count [] (Switch.require_eq_ok_iff.mp there)
      | readAndClear =>
          cases counted
          exact .count _ (Switch.require_eq_ok_iff.mp there)
  | clearStats type id stats =>
      refine .settled fun done => ?_
      obtain ⟨key, _, rest⟩ := bind_eq_ok_iff.mp done
      refine .onSwitch (fun {switch changed} cleared => ?_) rest
      obtain ⟨_, there, counted⟩ := bind_eq_ok_iff.mp cleared
      cases counted
      exact .count _ (Switch.require_eq_ok_iff.mp there)
  | flush switchId attrs =>
      refine .reported fun done => ?_
      obtain ⟨filter, _, rest⟩ := bind_eq_ok_iff.mp done
      refine .onSwitch (fun {switch changed} flushed => ?_) rest
      cases flushed
      exact .flush filter

theorem learn_moves (key : FdbKey) (port : ObjectId) :
    Moves now (.learn key port) chassis (chassis.learn key port now).state [] := by
  refine .reported fun done => ?_
  obtain ⟨_, _, rest⟩ := bind_eq_ok_iff.mp done
  refine .onSwitch (fun {switch changed} learned => ?_) rest
  exact .learn rfl rfl learned

/-- Writing one attribute after another makes the moves of one write after another. -/
theorem writeEach_moves (bypassed : command.overrides = true) (attrs : List Attribute) :
    Moves now command chassis (chassis.writeEach key now attrs).state [] := by
  induction attrs generalizing chassis with
  | nil => exact .refl chassis
  | cons attr rest ih =>
      unfold writeEach writeAny
      cases done : chassis.setOn true key attr now with
      | error fault => exact .refl chassis
      | ok pair =>
          have first : Moves now command chassis pair.2 [] := setOn_moves (fun _ => bypassed) done
          have others : Moves now command pair.2 (pair.2.writeEach key now rest).state [] := ih
          exact first.append others

theorem administer_moves (message : Message) :
    Moves now (.administer message) chassis (chassis.administer message now).state [] := by
  unfold administer
  split
  · refine .settled fun done => ?_
    obtain ⟨testMode, _, same⟩ := map_eq_ok_iff.mp done
    cases same
    exact .single (.setTestMode testMode)
  · split
    · next writes =>
        have bypassed : (Command.administer message).overrides = true := decide_eq_true writes
        unfold writeAll
        cases chassis.checkWrites message with
        | error fault => exact .refl chassis
        | ok pair => exact writeEach_moves bypassed pair.2
    · split
      · refine .settled fun done => ?_
        obtain ⟨_, _, rest⟩ := bind_eq_ok_iff.mp done
        obtain ⟨key, _, rest⟩ := bind_eq_ok_iff.mp rest
        refine .onSwitch (fun {switch changed} wrote => ?_) rest
        obtain ⟨_, there, rest⟩ := bind_eq_ok_iff.mp wrote
        obtain ⟨counts, _, counted⟩ := bind_eq_ok_iff.mp rest
        cases counted
        exact .count counts (Switch.require_eq_ok_iff.mp there)
      · exact .refl chassis

/-- Whatever a command does to a chassis, it does in moves. -/
theorem step_moves (command : Command) :
    Moves now command chassis (chassis.step now command) (chassis.issued command) := by
  cases command with
  | call call => exact perform_moves call
  | learn key port => exact learn_moves key port
  | age => exact .single .age
  | administer message => exact administer_moves message

end Chassis

end SwitchAbstraction
