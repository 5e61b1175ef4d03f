import SwitchAbstraction.Proofs.PrimaryState

/-!
# Reads leave no trace

A read brings the derived attributes of its object up to date, even if it is
refused later on.  No command can tell: chassis that differ at most in derived
attributes answer every command alike, report the same, and stay like that.
So reads that are put into a history change no answer to another command.
-/

namespace SwitchAbstraction

open Results

/-! ## Registries and chassis -/

/-- The switches, but for derived attributes of their objects. -/
def Registry.primary (registry : Registry) : Registry :=
  registry.mapValues fun _ switch => switch.primary

namespace Registry

variable {registry : Registry}

theorem get?_primary (index : UInt8) :
    registry.primary.get? index = (registry.get? index).map Switch.primary :=
  OrderedMap.get?_mapValues _ _ _

theorem primary_congr {other : Registry}
    (same : ∀ index, (registry.get? index).map Switch.primary =
      (other.get? index).map Switch.primary) : registry.primary = other.primary := by
  apply OrderedMap.ext_get?
  intro index
  rw [get?_primary, get?_primary]
  exact same index

@[simp] theorem primary_primary : registry.primary.primary = registry.primary := by
  apply primary_congr
  intro index
  rw [get?_primary, Option.map_map]
  congr 1
  funext switch
  exact Switch.primary_primary

theorem primary_insert (index : UInt8) (switch : Switch) :
    primary (registry.insert index switch) = registry.primary.insert index switch.primary :=
  OrderedMap.mapValues_insert _ _ _ _

theorem primary_erase (index : UInt8) :
    primary (registry.erase index) = registry.primary.erase index :=
  OrderedMap.mapValues_erase _ _ _

theorem find_primary (id : ObjectId) :
    registry.primary.find id = (registry.find id).map Switch.primary := by
  unfold find
  cases indexOf id with
  | error fault => rfl
  | ok index =>
      dsimp only
      rw [get?_primary]
      cases registry.get? index <;> rfl

end Registry

/-- The chassis, but for derived attributes of its objects. -/
def Chassis.primary (chassis : Chassis) : Chassis :=
  { chassis with switches := chassis.switches.primary }

/-- An outcome, but for derived attributes of what it leads to. -/
def Outcome.primary {α : Type} (outcome : Outcome Chassis α) : Outcome Chassis α :=
  { outcome with state := outcome.state.primary }

theorem Outcome.primary_congr {α : Type} {first second : Outcome Chassis α}
    (answers : first.answer = second.answer)
    (states : first.state.primary = second.state.primary)
    (notifications : first.notifications = second.notifications) :
    first.primary = second.primary := by
  unfold primary
  rw [answers, states, notifications]

namespace Chassis

variable {chassis : Chassis} {key : ObjectKey} {now : UInt64} {α β : Type}

@[simp] theorem primary_switches : chassis.primary.switches = chassis.switches.primary := rfl

@[simp] theorem primary_ids : chassis.primary.ids = chassis.ids := rfl

@[simp] theorem primary_indexes : chassis.primary.indexes = chassis.indexes := rfl

@[simp] theorem bootstrap_primary : chassis.primary.bootstrap = chassis.bootstrap := rfl

@[simp] theorem primary_primary : chassis.primary.primary = chassis.primary := by
  unfold primary
  rw [Registry.primary_primary]

theorem put_primary (id : ObjectId) (switch : Switch) :
    (chassis.put id switch).primary = chassis.primary.put id switch.primary := by
  unfold put primary
  dsimp only
  rw [Registry.primary_insert]

/-- Alike switches are put into alike chassis. -/
theorem put_congr (id : ObjectId) {stripped switch : Switch}
    (same : stripped.primary = switch.primary) :
    (chassis.primary.put id stripped).primary = (chassis.put id switch).primary := by
  rw [put_primary, put_primary, primary_primary, same]

/-! ## Operations on one switch -/

/-- An operation on one switch that overlooks derived attributes does so on a chassis too. -/
theorem primary_onSwitch {operation : Switch → Except Fault (α × Switch)}
    (overlooks : ∀ switch : Switch, mapState Switch.primary (operation switch.primary) =
      mapState Switch.primary (operation switch)) (id : ObjectId) :
    mapState primary (chassis.primary.onSwitch id operation) =
      mapState primary (chassis.onSwitch id operation) := by
  unfold onSwitch
  rw [primary_switches, Registry.find_primary]
  cases chassis.switches.find id with
  | error fault => rfl
  | ok switch =>
      simp only [Except.map]
      rcases cases_of_mapState_eq (overlooks switch) with
        ⟨fault, first, second⟩ | ⟨value, stripped, next, first, second, same⟩
      · rw [first, second]
      · rw [first, second]
        exact congrArg (fun after => Except.ok (value, after)) (put_congr id same)

/-- An operation on one switch may as well be run before derived attributes are left out. -/
theorem primary_onSwitch_of_eq {operation : Switch → Except Fault (α × Switch)}
    (commutes : ∀ switch : Switch,
      operation switch.primary = mapState Switch.primary (operation switch)) (id : ObjectId) :
    mapState primary (chassis.primary.onSwitch id operation) =
      mapState primary (chassis.onSwitch id operation) := by
  refine primary_onSwitch (fun switch => ?_) id
  rw [commutes, mapState_mapState fun _ => Switch.primary_primary]

/-! ## Creating and removing objects -/

theorem primary_createSwitch (attrs : List Attribute) :
    (chassis.primary.createSwitch attrs).1 = (chassis.createSwitch attrs).1 ∧
      (chassis.primary.createSwitch attrs).2.primary =
        (chassis.createSwitch attrs).2.primary := by
  unfold createSwitch
  rw [bootstrap_primary, primary_indexes]
  cases chassis.indexes.allocate with
  | error fault => exact ⟨rfl, primary_primary⟩
  | ok drawn =>
      obtain ⟨index, indexes⟩ := drawn
      dsimp only
      obtain ⟨built, ids⟩ := (chassis.bootstrap index attrs).run
      cases built with
      | error fault =>
          refine ⟨rfl, ?_⟩
          exact congrArg (fun after : Chassis => { after with ids, indexes }) primary_primary
      | ok switch =>
          have same : Registry.primary (chassis.switches.primary.insert index switch) =
              Registry.primary (chassis.switches.insert index switch) := by
            rw [Registry.primary_insert, Registry.primary_insert, Registry.primary_primary]
          refine ⟨rfl, ?_⟩
          exact congrArg (fun switches => { chassis with ids, indexes, switches }) same

theorem primary_createObject (type : ObjectType) (owner : ObjectId) (attrs : List Attribute) :
    (chassis.primary.createObject type owner attrs).1 = (chassis.createObject type owner attrs).1 ∧
      (chassis.primary.createObject type owner attrs).2.primary =
        (chassis.createObject type owner attrs).2.primary := by
  unfold createObject
  split
  · exact ⟨rfl, primary_primary⟩
  · rw [primary_switches, Registry.find_primary]
    cases chassis.switches.find owner with
    | error fault => exact ⟨rfl, primary_primary⟩
    | ok switch =>
        simp only [Except.map]
        rw [Switch.equip_primary]
        cases switch.equip type (.ofList attrs) with
        | error fault => exact ⟨rfl, primary_primary⟩
        | ok taken =>
            obtain ⟨stored, equipped⟩ := taken
            simp only [mapState, Except.map]
            -- Both creations draw the same id and fail or succeed together.
            obtain ⟨ids, placed⟩ :=
              @Switch.primary_place equipped chassis.ids owner.switchIndex type stored
            rw [primary_ids]
            generalize equipped.primary.place chassis.ids owner.switchIndex type stored = first at *
            generalize equipped.place chassis.ids owner.switchIndex type stored = second at *
            obtain ⟨result, left⟩ := first
            obtain ⟨other, rest⟩ := second
            cases ids
            rcases cases_of_mapState_eq placed with
              ⟨fault, refused, failed⟩ | ⟨id, stripped, next, made, built, same⟩
            · cases refused
              cases failed
              refine ⟨rfl, ?_⟩
              have released : (equipped.primary.unequip type stored).primary =
                  (equipped.unequip type stored).primary := by
                rw [Switch.unequip_primary, Switch.primary_primary]
              exact congrArg (fun after : Chassis => { after with ids := left })
                (put_congr owner released)
            · cases made
              cases built
              refine ⟨rfl, ?_⟩
              exact congrArg (fun after : Chassis => { after with ids := left })
                (put_congr owner same)

theorem primary_create (type : ObjectType) (owner : ObjectId) (attrs : List Attribute) :
    (chassis.primary.create type owner attrs).1 = (chassis.create type owner attrs).1 ∧
      (chassis.primary.create type owner attrs).2.primary =
        (chassis.create type owner attrs).2.primary := by
  unfold create
  cases checkCreate type attrs with
  | error fault => exact ⟨rfl, primary_primary⟩
  | ok _ =>
      dsimp only
      split
      · exact primary_createSwitch attrs
      · exact primary_createObject type owner attrs

theorem primary_remove (type : ObjectType) (id : ObjectId) :
    mapState primary (chassis.primary.remove type id) =
      mapState primary (chassis.remove type id) := by
  unfold remove
  cases ObjectKey.ofTypedId type id with
  | error fault => rw [error_bind, error_bind]
  | ok key =>
      rw [ok_bind, ok_bind]
      split
      · unfold Registry.take
        rw [primary_switches, Registry.find_primary]
        cases chassis.switches.find id with
        | error fault => rfl
        | ok switch =>
            have same : Registry.primary (chassis.switches.primary.erase id.switchIndex) =
                Registry.primary (chassis.switches.erase id.switchIndex) := by
              rw [Registry.primary_erase, Registry.primary_erase, Registry.primary_primary]
            exact congrArg (fun switches => Except.ok ((), { chassis with switches })) same
      · exact primary_onSwitch_of_eq (fun _ => Switch.removeObject_primary) _

/-! ## Changing attributes -/

theorem checkWrite_primary (readOnly : Bool) (attr : Attribute) :
    chassis.primary.checkWrite readOnly key attr = chassis.checkWrite readOnly key attr := by
  have same : (chassis.primary.switches.find key.switchId >>= fun switch => switch.require key) =
      chassis.switches.find key.switchId >>= fun switch => switch.require key := by
    rw [primary_switches, Registry.find_primary]
    cases chassis.switches.find key.switchId with
    | error fault => rfl
    | ok switch => exact Switch.require_primary
  unfold checkWrite
  rw [same]

theorem primary_write (attr : Attribute) :
    (chassis.primary.write key attr now).primary = (chassis.write key attr now).primary := by
  have same : Registry.primary (chassis.switches.primary.modify key.switchId.switchIndex
        fun switch => switch.write key attr now) =
      Registry.primary (chassis.switches.modify key.switchId.switchIndex
        fun switch => switch.write key attr now) := by
    apply Registry.primary_congr
    intro index
    rw [OrderedMap.get?_modify, OrderedMap.get?_modify, Registry.get?_primary]
    cases chassis.switches.get? index with
    | none => simp
    | some switch =>
        split
        · exact congrArg some (Switch.primary_write attr)
        · exact congrArg some Switch.primary_primary
  exact congrArg (fun switches => { chassis with switches }) same

theorem primary_setOn (readOnly : Bool) (attr : Attribute) :
    mapState primary (chassis.primary.setOn readOnly key attr now) =
      mapState primary (chassis.setOn readOnly key attr now) := by
  unfold setOn
  rw [checkWrite_primary]
  cases chassis.checkWrite readOnly key attr with
  | error fault => rw [error_bind, error_bind]
  | ok _ => exact congrArg (fun after => Except.ok ((), after)) (primary_write attr)

/-! ## Reading -/

theorem checkRead_primary (slots : List Attribute) :
    chassis.primary.checkRead key slots = (chassis.checkRead key slots).map Switch.primary := by
  unfold checkRead
  split
  · rfl
  · rw [primary_switches, Registry.find_primary]
    cases chassis.switches.find key.switchId with
    | error fault => rfl
    | ok switch =>
        simp only [Except.map, ok_bind, Switch.require_primary]
        cases switch.require key <;> rfl

/-- A read leaves nothing behind but derived attributes. -/
theorem primary_getOn (slots : List Attribute) :
    (chassis.getOn key slots).2.primary = chassis.primary := by
  unfold getOn
  cases passed : chassis.checkRead key slots with
  | error fault => rfl
  | ok switch =>
      obtain ⟨found, _⟩ := checkRead_eq_ok passed
      obtain ⟨_, there⟩ := Registry.find_eq_ok_iff.mp found
      dsimp only
      rw [put_primary, Switch.primary_refresh, ← put_primary, put_of_get? there]

/-- Slots that pass are for attributes of the type of their object. -/
theorem own_of_checkRead {slots : List Attribute} {switch : Switch}
    (passed : chassis.checkRead key slots = .ok switch) :
    ∀ slot ∈ slots, slot.id.objectType = key.type := by
  unfold checkRead at passed
  split at passed
  · cases passed
  · next none =>
      intro slot member
      simpa using List.find?_eq_none.mp none slot member

/-- Derived attributes are read as they are now, not as they were stored. -/
theorem getOn_primary (slots : List Attribute) :
    (chassis.primary.getOn key slots).1 = (chassis.getOn key slots).1 := by
  unfold getOn
  rw [checkRead_primary]
  cases passed : chassis.checkRead key slots with
  | error fault => rfl
  | ok switch => exact Switch.read_refresh_primary (own_of_checkRead passed)

/-! ## Commands -/

theorem primary_settled {attempt other : Except Fault (α × Chassis)} (answer : Except Fault α → β)
    (same : mapState primary attempt = mapState primary other) :
    (chassis.primary.settled attempt answer).primary =
      (chassis.settled other answer).primary := by
  rcases cases_of_mapState_eq same with
    ⟨fault, rfl, rfl⟩ | ⟨value, stripped, next, rfl, rfl, states⟩
  · exact Outcome.primary_congr rfl primary_primary rfl
  · exact Outcome.primary_congr rfl states rfl

theorem primary_reported {attempt other : Except Fault (List FdbEvent × Chassis)}
    (answer : Except Fault Unit → β) (same : mapState primary attempt = mapState primary other) :
    (chassis.primary.reported attempt answer).primary =
      (chassis.reported other answer).primary := by
  rcases cases_of_mapState_eq same with
    ⟨fault, rfl, rfl⟩ | ⟨events, stripped, next, rfl, rfl, states⟩
  · exact Outcome.primary_congr rfl primary_primary rfl
  · exact Outcome.primary_congr rfl states rfl

/-- A result that is passed on to alike operations stays alike. -/
theorem mapState_bind_congr {first : Except Fault β}
    {operation other : β → Except Fault (α × Chassis)}
    (same : ∀ value, mapState primary (operation value) = mapState primary (other value)) :
    mapState primary (first >>= operation) = mapState primary (first >>= other) := by
  cases first with
  | error fault => rw [error_bind, error_bind]
  | ok value => exact same value

theorem primary_get (type : ObjectType) (id : ObjectId) (slots : List Attribute) :
    (chassis.get type id slots).2.primary = chassis.primary := by
  unfold get
  cases ObjectKey.ofTypedId type id with
  | error fault => rfl
  | ok key => exact primary_getOn slots

theorem get_primary (type : ObjectType) (id : ObjectId) (slots : List Attribute) :
    (chassis.primary.get type id slots).1 = (chassis.get type id slots).1 := by
  unfold get
  cases ObjectKey.ofTypedId type id with
  | error fault => rfl
  | ok key => exact getOn_primary slots

theorem primary_getEntry (slots : List Attribute) :
    (chassis.getEntry key slots).2.primary = chassis.primary := by
  unfold getEntry
  cases key.checkEntry with
  | error fault => rfl
  | ok _ => exact primary_getOn slots

theorem getEntry_primary (slots : List Attribute) :
    (chassis.primary.getEntry key slots).1 = (chassis.getEntry key slots).1 := by
  unfold getEntry
  cases key.checkEntry with
  | error fault => rfl
  | ok _ => exact getOn_primary slots

theorem primary_perform (call : Call) :
    (chassis.primary.perform now call).primary = (chassis.perform now call).primary := by
  cases call with
  | create type owner attrs =>
      obtain ⟨result, states⟩ := @primary_create chassis type owner attrs
      exact Outcome.primary_congr (congrArg (answerOf _) result) states rfl
  | remove type id => exact primary_settled _ (primary_remove type id)
  | set type id attr =>
      exact primary_settled _ (mapState_bind_congr fun key => primary_setOn false attr)
  | get type id slots =>
      refine Outcome.primary_congr (get_primary type id slots) ?_ rfl
      exact (primary_get type id slots).trans
        (primary_primary.trans (primary_get type id slots).symm)
  | createEntry key attrs =>
      refine primary_settled _ (mapState_bind_congr fun _ => ?_)
      exact primary_onSwitch (fun _ => Switch.primary_addEntry _) key.switchId
  | removeEntry key =>
      refine primary_settled _ (mapState_bind_congr fun _ => ?_)
      exact primary_onSwitch_of_eq (fun _ => Switch.removeObject_primary) key.switchId
  | setEntry key attr =>
      exact primary_settled _ (mapState_bind_congr fun _ => primary_setOn false attr)
  | getEntry key slots =>
      refine Outcome.primary_congr (getEntry_primary slots) ?_ rfl
      exact (primary_getEntry slots).trans (primary_primary.trans (primary_getEntry slots).symm)
  | readStats type id stats mode =>
      refine primary_settled _ (mapState_bind_congr fun key => ?_)
      exact primary_onSwitch_of_eq (fun _ => Switch.readStats_primary stats mode) key.switchId
  | clearStats type id stats =>
      refine primary_settled _ (mapState_bind_congr fun key => ?_)
      exact primary_onSwitch_of_eq (fun _ => Switch.clearStats_primary stats) key.switchId
  | flush owner attrs =>
      refine primary_reported _ (mapState_bind_congr fun filter => ?_)
      refine primary_onSwitch_of_eq (fun switch => ?_) owner
      exact congrArg Except.ok (Switch.flush_primary owner filter)

theorem primary_learn (entry : FdbKey) (port : ObjectId) :
    (chassis.primary.learn entry port now).primary = (chassis.learn entry port now).primary := by
  refine primary_reported _ (mapState_bind_congr fun _ => ?_)
  exact primary_onSwitch (fun _ => Switch.primary_learn entry port) entry.switchId

theorem primary_age : (chassis.primary.age now).primary = (chassis.age now).primary := by
  have events : (chassis.switches.primary.values.flatMap fun switch => (switch.age now).1) =
      chassis.switches.values.flatMap fun switch => (switch.age now).1 := by
    unfold Registry.primary
    rw [OrderedMap.values_mapValues, List.flatMap_map]
    congr 1
    funext switch
    rw [Switch.age_primary]
  have states : Registry.primary (chassis.switches.primary.mapValues
        fun _ switch => (switch.age now).2) =
      Registry.primary (chassis.switches.mapValues fun _ switch => (switch.age now).2) := by
    apply Registry.primary_congr
    intro index
    rw [OrderedMap.get?_mapValues, OrderedMap.get?_mapValues, Registry.get?_primary]
    cases chassis.switches.get? index with
    | none => rfl
    | some switch =>
        refine congrArg some ?_
        dsimp only
        rw [Switch.age_primary, Switch.primary_primary]
  unfold age
  rw [primary_switches, events]
  exact Outcome.primary_congr rfl (congrArg (fun switches => { chassis with switches }) states) rfl

theorem primary_writeAny (attr : Attribute) :
    (chassis.primary.writeAny key attr now).primary =
      (chassis.writeAny key attr now).primary := by
  unfold writeAny
  rcases cases_of_mapState_eq (@primary_setOn chassis key now true attr) with
    ⟨fault, first, second⟩ | ⟨_, stripped, next, first, second, states⟩
  · rw [first, second]
    exact Outcome.primary_congr rfl primary_primary rfl
  · rw [first, second]
    exact Outcome.primary_congr rfl states rfl

theorem primary_writeEach (attrs : List Attribute) :
    (chassis.primary.writeEach key now attrs).primary =
      (chassis.writeEach key now attrs).primary := by
  induction attrs generalizing chassis with
  | nil => exact Outcome.primary_congr rfl primary_primary rfl
  | cons attr rest ih =>
      have same := @primary_writeAny chassis key now attr
      unfold writeEach
      generalize chassis.primary.writeAny key attr now = first at same
      generalize chassis.writeAny key attr now = second at same
      obtain ⟨answer, stripped, events⟩ := first
      obtain ⟨_, next, _⟩ := second
      obtain ⟨rfl, states, rfl⟩ := Outcome.mk.inj same
      -- The rest starts from chassis that are no longer related by `primary` but still alike.
      cases answer with
      | error fault => exact same
      | ok _ =>
          have others : (stripped.writeEach key now rest).primary =
              (next.writeEach key now rest).primary := by
            rw [← @ih stripped, ← @ih next]
            exact congrArg (fun state => (writeEach state key now rest).primary) states
          obtain ⟨answers, after, notifications⟩ := Outcome.mk.inj others
          exact Outcome.primary_congr answers after (congrArg (events ++ ·) notifications)

theorem checkWrites_primary (message : Message) :
    chassis.primary.checkWrites message = chassis.checkWrites message := by
  unfold checkWrites
  have same : ∀ key, chassis.primary.checkWrite true key = chassis.checkWrite true key :=
    fun key => funext fun attr => checkWrite_primary true attr
  simp only [same]
  rfl

theorem primary_writeStats (message : Message) :
    mapState primary (chassis.primary.writeStats message) =
      mapState primary (chassis.writeStats message) := by
  refine mapState_bind_congr fun _ => mapState_bind_congr fun key => ?_
  refine primary_onSwitch_of_eq (fun switch => ?_) key.switchId
  rw [Switch.require_primary]
  cases switch.require key with
  | error fault => rfl
  | ok _ =>
      rw [ok_bind, ok_bind]
      cases message.fields.mapM Admin.statOfField with
      | error fault => rfl
      | ok counts =>
          exact congrArg (fun next => Except.ok ((), next)) (Switch.setCounters_primary counts)

theorem primary_setTestMode (text : String) :
    mapState primary (chassis.primary.setTestMode text) =
      mapState primary (chassis.setTestMode text) := by
  unfold setTestMode
  cases Admin.testMode text with
  | error fault => rfl
  | ok testMode =>
      exact congrArg (fun state : Chassis => Except.ok ((), { state with testMode }))
        primary_primary

theorem primary_administer (message : Message) :
    (chassis.primary.administer message now).primary =
      (chassis.administer message now).primary := by
  unfold administer
  split
  · exact primary_settled _ (primary_setTestMode message.key)
  · split
    · unfold writeAll
      rw [checkWrites_primary]
      cases chassis.checkWrites message with
      | error fault => exact Outcome.primary_congr rfl primary_primary rfl
      | ok checked => exact primary_writeEach checked.2
    · split
      · exact primary_settled _ (primary_writeStats message)
      · exact Outcome.primary_congr rfl primary_primary rfl

end Chassis

/-! ## Histories -/

/-- Whether a command reads attributes. -/
def Command.isRead : Command → Bool
  | .call (.get _ _ _) => true
  | .call (.getEntry _ _) => true
  | _ => false

/-- All that the caller of a command gets back. -/
inductive Response
  | answered (answer : Answer)
  | settled (result : Except Fault Unit)
  | aged (count : Nat)

/-- The items of a list that are not marked, without their marks. -/
def unmarked {ι : Type} (items : List (Bool × ι)) : List ι :=
  items.filterMap fun item => if item.1 then none else some item.2

/-- An outcome with its answer rewritten. -/
def Outcome.mapAnswer {σ α β : Type} (outcome : Outcome σ α) (rewrite : α → β) : Outcome σ β :=
  { outcome with answer := rewrite outcome.answer }

theorem Outcome.mapAnswer_congr {α β : Type} {first second : Outcome Chassis α}
    {rewrite : α → β} (alike : first.primary = second.primary) :
    (first.mapAnswer rewrite).primary = (second.mapAnswer rewrite).primary := by
  obtain ⟨answers, states, notifications⟩ := Outcome.mk.inj alike
  exact primary_congr (congrArg rewrite answers) states notifications

namespace Chassis

variable {chassis : Chassis} {now : UInt64}

/-- What a command leads to, with all that its caller gets back. -/
def react (chassis : Chassis) (now : UInt64) : Command → Outcome Chassis Response
  | .call call => (chassis.perform now call).mapAnswer .answered
  | .learn key port => (chassis.learn key port now).mapAnswer .settled
  | .age => (chassis.age now).mapAnswer .aged
  | .administer message => (chassis.administer message now).mapAnswer .settled

/-- What the callers of commands get back and what is reported meanwhile, command by command. -/
def transcript (chassis : Chassis) :
    List (UInt64 × Command) → List (Response × List Notification)
  | [] => []
  | (now, command) :: rest =>
      let outcome := chassis.react now command
      (outcome.answer, outcome.notifications) :: outcome.state.transcript rest

theorem react_state (command : Command) :
    (chassis.react now command).state = chassis.step now command := by
  cases command <;> rfl

theorem run_cons (command : Command) (rest : List (UInt64 × Command)) :
    chassis.run ((now, command) :: rest) = (chassis.react now command).state.run rest := by
  rw [react_state]
  rfl

theorem primary_react (command : Command) :
    (chassis.primary.react now command).primary = (chassis.react now command).primary := by
  cases command with
  | call call => exact Outcome.mapAnswer_congr (primary_perform call)
  | learn entry port => exact Outcome.mapAnswer_congr (primary_learn entry port)
  | age => exact Outcome.mapAnswer_congr primary_age
  | administer message => exact Outcome.mapAnswer_congr (primary_administer message)

/-- A command cannot tell chassis that differ at most in derived attributes. -/
theorem react_congr {first second : Chassis} (alike : first.primary = second.primary)
    (command : Command) :
    (first.react now command).primary = (second.react now command).primary := by
  rw [← @primary_react first, alike, primary_react]

theorem react_of_isRead {command : Command} (reads : command.isRead = true) :
    (chassis.react now command).state.primary = chassis.primary ∧
      (chassis.react now command).notifications = [] := by
  cases command with
  | call call =>
      cases call with
      | get type id slots => exact ⟨primary_get type id slots, rfl⟩
      | getEntry key slots => exact ⟨primary_getEntry slots, rfl⟩
      | _ => cases reads
  | _ => cases reads

/-- Reads that are put into a history change nothing for the commands around them. -/
theorem transcript_unmarked {first second : Chassis} (alike : first.primary = second.primary)
    {history : List (Bool × UInt64 × Command)}
    (reads : ∀ entry ∈ history, entry.1 = true → entry.2.2.isRead = true) :
    unmarked ((history.map Prod.fst).zip (first.transcript (history.map Prod.snd))) =
        second.transcript (unmarked history) ∧
      (first.transcript (history.map Prod.snd)).flatMap Prod.snd =
        (second.transcript (unmarked history)).flatMap Prod.snd ∧
      (first.run (history.map Prod.snd)).primary = (second.run (unmarked history)).primary := by
  -- The chassis differ from place to place: what carries over is that they are alike.
  induction history generalizing first second with
  | nil => exact ⟨rfl, rfl, alike⟩
  | cons entry rest ih =>
      obtain ⟨own, others⟩ := List.forall_mem_cons.mp reads
      obtain ⟨mark, now, command⟩ := entry
      cases mark with
      | true =>
          obtain ⟨states, silent⟩ := @react_of_isRead first now command (own rfl)
          obtain ⟨answers, notifications, final⟩ := ih (states.trans alike) others
          refine ⟨answers, ?_, ?_⟩
          · change (first.react now command).notifications ++ _ = _
            rw [silent]
            exact notifications
          · change (first.run ((now, command) :: rest.map Prod.snd)).primary = _
            rw [run_cons]
            exact final
      | false =>
          obtain ⟨answer, states, reports⟩ :=
            Outcome.mk.inj (@react_congr now first second alike command)
          obtain ⟨answers, notifications, final⟩ := ih states others
          refine ⟨?_, ?_, ?_⟩
          · exact congr (congrArg List.cons (Prod.ext answer reports)) answers
          · change (first.react now command).notifications ++ _ =
              (second.react now command).notifications ++ _
            rw [reports]
            exact congrArg (_ ++ ·) notifications
          · change (first.run ((now, command) :: rest.map Prod.snd)).primary =
              (second.run ((now, command) :: unmarked rest)).primary
            rw [run_cons, run_cons]
            exact final

/--
Two chassis that differ at most in derived attributes answer every command
alike, with the same slots and the same reports, and differ at most in derived
attributes afterwards.  So reads that are put into a history, at the marked
places, change nothing that the other commands get back or that is reported.
-/
theorem reads_leave_no_trace {first second : Chassis} (alike : first.primary = second.primary) :
    (∀ now command,
      (first.react now command).answer = (second.react now command).answer ∧
        (first.react now command).notifications = (second.react now command).notifications ∧
        (first.step now command).primary = (second.step now command).primary) ∧
    ∀ history : List (Bool × UInt64 × Command),
      (∀ entry ∈ history, entry.1 = true → entry.2.2.isRead = true) →
      unmarked ((history.map Prod.fst).zip (first.transcript (history.map Prod.snd))) =
          second.transcript (unmarked history) ∧
        (first.transcript (history.map Prod.snd)).flatMap Prod.snd =
          (second.transcript (unmarked history)).flatMap Prod.snd ∧
        (first.run (history.map Prod.snd)).primary =
          (second.run (unmarked history)).primary := by
  constructor
  · intro now command
    obtain ⟨answers, states, notifications⟩ :=
      Outcome.mk.inj (@react_congr now first second alike command)
    rw [react_state, react_state] at states
    exact ⟨answers, notifications, states⟩
  · intro history reads
    exact transcript_unmarked alike reads

/-- A new switch with one port. -/
def created : Chassis :=
  (start .singlePort).step 0 (.call (.create .switch .null []))

/-- A read of the members of the default VLAN of the first switch. -/
def readMembers : Command :=
  .call (.get .vlan (.compose 0 .vlan 1) [.request .vlanMemberList 4])

/--
The first read of the members of a VLAN stores them, where nothing was stored
before.  Removing a member and reading again gives the same answers after it,
with and without another read between the two.
-/
theorem member_read_leaves_no_trace :
    (created.step 1 readMembers).switches ≠ created.switches ∧
    (created.step 1 readMembers).primary = created.primary ∧
    (created.react 4 readMembers).answer =
      ((created.step 1 readMembers).react 4 readMembers).answer ∧
    unmarked ([false, true, false].zip ((created.step 1 readMembers).transcript
        [(2, .call (.remove .vlanMember (.compose 0 .vlanMember 7))), (3, readMembers),
          (4, readMembers)])) =
      created.transcript
        [(2, .call (.remove .vlanMember (.compose 0 .vlanMember 7))), (4, readMembers)] := by
  have alike : (created.step 1 readMembers).primary = created.primary := by
    rw [← react_state]
    exact (react_of_isRead rfl).1
  obtain ⟨commands, histories⟩ := reads_leave_no_trace alike
  refine ⟨by decide +kernel, alike, (commands 4 readMembers).1.symm, ?_⟩
  refine (histories [(false, 2, .call (.remove .vlanMember (.compose 0 .vlanMember 7))),
    (true, 3, readMembers), (false, 4, readMembers)] ?_).1
  intro entry member marked
  simp only [List.mem_cons, List.not_mem_nil, or_false] at member
  rcases member with rfl | rfl | rfl
  · cases marked
  · rfl
  · cases marked

end Chassis

end SwitchAbstraction
