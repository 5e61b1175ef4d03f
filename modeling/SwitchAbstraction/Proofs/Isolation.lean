import Mathlib.Data.List.Basic
import SwitchAbstraction.Proofs.Reads

/-!
# Switches apart

A command that addresses a switch reads and changes that switch, the counter
of ids and the test mode, and nothing else of its chassis: moved with these
three into any other chassis, it goes the same way there.  An aging pass treats
each switch as if it were alone.
-/

namespace SwitchAbstraction

open Results

/-- The registry with the slot of an index filled or emptied. -/
def Registry.withSlot (registry : Registry) (index : UInt8) : Option Switch → Registry
  | some switch => registry.insert index switch
  | none => registry.erase index

namespace Registry

variable {registry : Registry} {index : UInt8}

theorem get?_withSlot (slot : Option Switch) (other : UInt8) :
    (registry.withSlot index slot).get? other =
      if other = index then slot else registry.get? other := by
  cases slot with
  | none => exact OrderedMap.get?_erase _ _ _
  | some switch => exact OrderedMap.get?_insert _ _ _ _

/-- Of a slot that is filled or emptied twice the second time counts. -/
theorem withSlot_withSlot (first second : Option Switch) :
    (registry.withSlot index first).withSlot index second = registry.withSlot index second := by
  apply OrderedMap.ext_get?
  intro other
  rw [get?_withSlot, get?_withSlot, get?_withSlot]
  split <;> rfl

theorem withSlot_get? : registry.withSlot index (registry.get? index) = registry := by
  apply OrderedMap.ext_get?
  intro other
  rw [get?_withSlot]
  split
  · next own => rw [own]
  · rfl

end Registry

/-- An outcome with the state after it rewritten. -/
def Outcome.mapState {σ τ α : Type} (outcome : Outcome σ α) (rewrite : σ → τ) : Outcome τ α :=
  ⟨outcome.answer, rewrite outcome.state, outcome.notifications⟩

namespace Chassis

/-- The host with the switch at an index, the counter of ids and the test mode of a chassis. -/
def movedInto (chassis : Chassis) (index : UInt8) (host : Chassis) : Chassis :=
  { host with
    switches := host.switches.withSlot index (chassis.switches.get? index)
    ids := chassis.ids
    testMode := chassis.testMode }

/-- Two chassis agree on all that a command to the switch at an index may depend on. -/
structure AgreeAt (index : UInt8) (first second : Chassis) : Prop where
  switch_eq : first.switches.get? index = second.switches.get? index
  ids_eq : first.ids = second.ids
  testMode_eq : first.testMode = second.testMode

variable {chassis host : Chassis} {index : UInt8} {id : ObjectId} {key : ObjectKey} {now : UInt64}
  {α β : Type}

theorem get?_movedInto (other : UInt8) :
    (chassis.movedInto index host).switches.get? other =
      if other = index then chassis.switches.get? index else host.switches.get? other :=
  Registry.get?_withSlot _ _

theorem agreeAt_movedInto : AgreeAt index (chassis.movedInto index host) chassis :=
  ⟨(get?_movedInto index).trans (if_pos rfl), rfl, rfl⟩

theorem movedInto_of_agreeAt (agree : AgreeAt index chassis host) :
    chassis.movedInto index host = host := by
  obtain ⟨switch, ids, testMode⟩ := agree
  unfold movedInto
  rw [switch, ids, testMode, Registry.withSlot_get?]

theorem movedInto_self : chassis.movedInto index chassis = chassis :=
  movedInto_of_agreeAt ⟨rfl, rfl, rfl⟩

/-- The key of an object leads to the switch of its id. -/
theorem switchIndex_object (own : id.switchIndex = index) :
    (ObjectKey.object id).switchId.switchIndex = index :=
  (ObjectId.switchIndex_ofSwitchIndex _).trans own

/-! ## Operations on one switch -/

theorem find_movedInto (own : id.switchIndex = index) :
    (chassis.movedInto index host).switches.find id = chassis.switches.find id := by
  unfold Registry.find
  cases indexed : Registry.indexOf id with
  | error fault => rfl
  | ok found =>
      obtain ⟨_, rfl⟩ := Registry.indexOf_eq_ok_iff.mp indexed
      dsimp only
      rw [get?_movedInto, if_pos own, own]

theorem put_movedInto (own : id.switchIndex = index) (switch : Switch) :
    (chassis.movedInto index host).put id switch =
      (chassis.put id switch).movedInto index host := by
  have slot : (chassis.put id switch).switches.get? index = some switch :=
    (get?_put index).trans (if_pos own.symm)
  have same : (host.switches.withSlot index (chassis.switches.get? index)).insert
      id.switchIndex switch = host.switches.withSlot index (some switch) := by
    rw [own]
    exact Registry.withSlot_withSlot _ (some switch)
  unfold movedInto
  rw [slot, ← same]
  rfl

theorem onSwitch_movedInto (own : id.switchIndex = index)
    (operation : Switch → Except Fault (α × Switch)) :
    (chassis.movedInto index host).onSwitch id operation =
      mapState (fun state => state.movedInto index host) (chassis.onSwitch id operation) := by
  unfold onSwitch
  rw [find_movedInto own]
  cases chassis.switches.find id with
  | error fault => rfl
  | ok switch =>
      dsimp only
      cases operation switch with
      | error fault => rfl
      | ok changed =>
          exact congrArg (fun next => Except.ok (changed.1, next)) (put_movedInto own changed.2)

/-! ## Creating and removing objects -/

theorem createObject_movedInto {owner : ObjectId} (own : owner.switchIndex = index)
    (type : ObjectType) (attrs : List Attribute) :
    (chassis.movedInto index host).createObject type owner attrs =
      ((chassis.createObject type owner attrs).1,
        (chassis.createObject type owner attrs).2.movedInto index host) := by
  have drawn (switch : Switch) (ids : IdAllocator) :
      ({ (chassis.movedInto index host).put owner switch with ids } : Chassis) =
        movedInto { chassis.put owner switch with ids } index host := by
    rw [put_movedInto own]
    rfl
  unfold createObject
  split
  · rfl
  · rw [find_movedInto own]
    cases chassis.switches.find owner with
    | error fault => rfl
    | ok switch =>
        dsimp only
        cases switch.equip type (.ofList attrs) with
        | error fault => rfl
        | ok taken =>
            dsimp only
            change _ = (Prod.fst _, movedInto (Prod.snd _) index host)
            have ids : (chassis.movedInto index host).ids = chassis.ids := rfl
            rw [ids]
            obtain ⟨result, rest⟩ :=
              taken.2.place chassis.ids owner.switchIndex type taken.1
            cases result with
            | error fault => exact congrArg (Prod.mk _) (drawn _ rest)
            | ok placed => exact congrArg (Prod.mk _) (drawn _ rest)

theorem create_movedInto {type : ObjectType} (other : type ≠ .switch) {owner : ObjectId}
    (own : owner.switchIndex = index) (attrs : List Attribute) :
    (chassis.movedInto index host).create type owner attrs =
      ((chassis.create type owner attrs).1,
        (chassis.create type owner attrs).2.movedInto index host) := by
  unfold create
  cases checkCreate type attrs with
  | error fault => rfl
  | ok _ =>
      dsimp only
      rw [if_neg other, if_neg other]
      exact createObject_movedInto own type attrs

theorem remove_movedInto (own : id.switchIndex = index) (type : ObjectType) :
    (chassis.movedInto index host).remove type id =
      mapState (fun state => state.movedInto index host) (chassis.remove type id) := by
  unfold remove
  cases named : ObjectKey.ofTypedId type id with
  | error fault => rfl
  | ok key =>
      obtain ⟨rfl, _, _⟩ := ObjectKey.ofTypedId_eq_ok named
      rw [ok_bind, ok_bind]
      split
      · unfold Registry.take
        rw [find_movedInto own]
        cases chassis.switches.find id with
        | error fault => rfl
        | ok switch =>
            have slot : (chassis.switches.erase id.switchIndex).get? index = none := by
              rw [OrderedMap.get?_erase, if_pos own.symm]
            have same : (host.switches.withSlot index (chassis.switches.get? index)).erase
                id.switchIndex =
                host.switches.withSlot index ((chassis.switches.erase id.switchIndex).get? index) := by
              rw [slot, own]
              exact Registry.withSlot_withSlot _ none
            exact congrArg (fun switches => Except.ok ((), { host with
              switches, ids := chassis.ids, testMode := chassis.testMode })) same
      · exact onSwitch_movedInto (switchIndex_object own) _

/-! ## Changing and reading attributes -/

theorem checkWrite_movedInto (own : key.switchId.switchIndex = index) (readOnly : Bool)
    (attr : Attribute) :
    (chassis.movedInto index host).checkWrite readOnly key attr =
      chassis.checkWrite readOnly key attr := by
  unfold checkWrite
  rw [find_movedInto own]

theorem setOn_movedInto (own : key.switchId.switchIndex = index) (readOnly : Bool)
    (attr : Attribute) :
    (chassis.movedInto index host).setOn readOnly key attr now =
      mapState (fun state => state.movedInto index host)
        (chassis.setOn readOnly key attr now) := by
  unfold setOn
  rw [checkWrite_movedInto own]
  cases passed : chassis.checkWrite readOnly key attr with
  | error fault => rfl
  | ok _ =>
      obtain ⟨_, _, switch, found, _⟩ := checkWrite_eq_ok_iff.mp passed
      have written : (chassis.movedInto index host).write key attr now =
          (chassis.write key attr now).movedInto index host := by
        rw [write_eq_put found, write_eq_put ((find_movedInto own).trans found),
          put_movedInto own]
      exact congrArg (fun next => Except.ok ((), next)) written

theorem checkRead_movedInto (own : key.switchId.switchIndex = index) (slots : List Attribute) :
    (chassis.movedInto index host).checkRead key slots = chassis.checkRead key slots := by
  unfold checkRead
  rw [find_movedInto own]

theorem getOn_movedInto (own : key.switchId.switchIndex = index) (slots : List Attribute) :
    (chassis.movedInto index host).getOn key slots =
      ((chassis.getOn key slots).1, (chassis.getOn key slots).2.movedInto index host) := by
  unfold getOn
  rw [checkRead_movedInto own]
  cases chassis.checkRead key slots with
  | error fault => rfl
  | ok switch => exact congrArg (Prod.mk _) (put_movedInto own _)

/-- An operation after a check that reads no switch. -/
theorem checked_movedInto (check : Except Fault β)
    {operation moved : β → Except Fault (α × Chassis)}
    (same : ∀ value, moved value =
      mapState (fun state => state.movedInto index host) (operation value)) :
    (check >>= moved) =
      mapState (fun state => state.movedInto index host) (check >>= operation) := by
  cases check with
  | error fault => rfl
  | ok value => exact same value

theorem set_movedInto (own : id.switchIndex = index) (type : ObjectType) (attr : Attribute) :
    (chassis.movedInto index host).set type id attr now =
      mapState (fun state => state.movedInto index host) (chassis.set type id attr now) := by
  unfold set
  cases named : ObjectKey.ofTypedId type id with
  | error fault => rfl
  | ok key =>
      obtain ⟨rfl, _, _⟩ := ObjectKey.ofTypedId_eq_ok named
      exact setOn_movedInto (switchIndex_object own) false attr

theorem get_movedInto (own : id.switchIndex = index) (type : ObjectType)
    (slots : List Attribute) :
    (chassis.movedInto index host).get type id slots =
      ((chassis.get type id slots).1, (chassis.get type id slots).2.movedInto index host) := by
  unfold get
  cases named : ObjectKey.ofTypedId type id with
  | error fault => rfl
  | ok key =>
      obtain ⟨rfl, _, _⟩ := ObjectKey.ofTypedId_eq_ok named
      exact getOn_movedInto (switchIndex_object own) slots

theorem getEntry_movedInto (own : key.switchId.switchIndex = index) (slots : List Attribute) :
    (chassis.movedInto index host).getEntry key slots =
      ((chassis.getEntry key slots).1,
        (chassis.getEntry key slots).2.movedInto index host) := by
  unfold getEntry
  cases key.checkEntry with
  | error fault => rfl
  | ok _ => exact getOn_movedInto own slots

/-- An operation on the statistics of the object that an id names. -/
theorem onStats_movedInto (own : id.switchIndex = index) (type : ObjectType) (stats : List Stat)
    (operation : ObjectKey → Switch → Except Fault (α × Switch)) :
    (statsKey type id stats >>= fun key =>
        (chassis.movedInto index host).onSwitch key.switchId (operation key)) =
      mapState (fun state => state.movedInto index host)
        (statsKey type id stats >>= fun key =>
          chassis.onSwitch key.switchId (operation key)) := by
  cases named : statsKey type id stats with
  | error fault => rfl
  | ok key =>
      obtain ⟨rfl, _, _⟩ := statsKey_eq_ok named
      rw [ok_bind, ok_bind]
      exact onSwitch_movedInto (switchIndex_object own) _

/-! ## Commands -/

theorem settled_movedInto {attempt moved : Except Fault (α × Chassis)}
    (answer : Except Fault α → β)
    (same : moved = mapState (fun state => state.movedInto index host) attempt) :
    (chassis.movedInto index host).settled moved answer =
      (chassis.settled attempt answer).mapState fun state => state.movedInto index host := by
  subst same
  cases attempt <;> rfl

theorem reported_movedInto {attempt moved : Except Fault (List FdbEvent × Chassis)}
    (answer : Except Fault Unit → β)
    (same : moved = mapState (fun state => state.movedInto index host) attempt) :
    (chassis.movedInto index host).reported moved answer =
      (chassis.reported attempt answer).mapState fun state => state.movedInto index host := by
  subst same
  cases attempt <;> rfl

theorem writeAny_movedInto (own : key.switchId.switchIndex = index) (attr : Attribute) :
    (chassis.movedInto index host).writeAny key attr now =
      (chassis.writeAny key attr now).mapState fun state => state.movedInto index host := by
  unfold writeAny
  rw [setOn_movedInto own]
  cases chassis.setOn true key attr now <;> rfl

theorem writeEach_movedInto (own : key.switchId.switchIndex = index) (attrs : List Attribute) :
    (chassis.movedInto index host).writeEach key now attrs =
      (chassis.writeEach key now attrs).mapState fun state => state.movedInto index host := by
  induction attrs generalizing chassis with
  | nil => rfl
  | cons attr rest ih =>
      unfold writeEach
      rw [writeAny_movedInto own]
      obtain ⟨answer, next, notifications⟩ := chassis.writeAny key attr now
      cases answer with
      | error fault => rfl
      | ok _ =>
          dsimp only [Outcome.mapState]
          rw [ih]
          rfl

theorem checkWrites_movedInto {message : Message}
    (own : ∀ {key}, ObjectKey.parse message.key = .ok key → key.switchId.switchIndex = index) :
    (chassis.movedInto index host).checkWrites message = chassis.checkWrites message := by
  unfold checkWrites
  have test : (chassis.movedInto index host).requireTestMode Admin.writeOp =
      chassis.requireTestMode Admin.writeOp := rfl
  rw [test]
  cases chassis.requireTestMode Admin.writeOp with
  | error fault => rfl
  | ok _ =>
      rw [ok_bind, ok_bind]
      cases parsed : ObjectKey.parse message.key with
      | error fault => rfl
      | ok key =>
          have same : (chassis.movedInto index host).checkWrite true key =
              chassis.checkWrite true key :=
            funext fun attr => checkWrite_movedInto (own parsed) true attr
          rw [ok_bind, ok_bind, same]

theorem writeAll_movedInto {message : Message}
    (own : ∀ {key}, ObjectKey.parse message.key = .ok key → key.switchId.switchIndex = index) :
    (chassis.movedInto index host).writeAll message now =
      (chassis.writeAll message now).mapState fun state => state.movedInto index host := by
  unfold writeAll
  rw [checkWrites_movedInto own]
  cases taken : chassis.checkWrites message with
  | error fault => rfl
  | ok pair => exact writeEach_movedInto (own (read_of_checkWrites taken).1) pair.2

theorem writeStats_movedInto {message : Message}
    (own : ∀ {key}, ObjectKey.parse message.key = .ok key → key.switchId.switchIndex = index) :
    (chassis.movedInto index host).writeStats message =
      mapState (fun state => state.movedInto index host) (chassis.writeStats message) := by
  unfold writeStats
  have test : (chassis.movedInto index host).requireTestMode Admin.statsOp =
      chassis.requireTestMode Admin.statsOp := rfl
  rw [test]
  cases chassis.requireTestMode Admin.statsOp with
  | error fault => rfl
  | ok _ =>
      rw [ok_bind, ok_bind]
      cases parsed : ObjectKey.parse message.key with
      | error fault => rfl
      | ok key => exact onSwitch_movedInto (own parsed) _

theorem administer_movedInto {message : Message}
    (own : ∀ {key}, ObjectKey.parse message.key = .ok key → key.switchId.switchIndex = index) :
    (chassis.movedInto index host).administer message now =
      (chassis.administer message now).mapState fun state => state.movedInto index host := by
  have mode : (chassis.movedInto index host).setTestMode message.key =
      mapState (fun state => state.movedInto index host) (chassis.setTestMode message.key) := by
    unfold setTestMode
    cases Admin.testMode message.key <;> rfl
  unfold administer
  split
  · exact settled_movedInto _ mode
  · split
    · exact writeAll_movedInto own
    · split
      · exact settled_movedInto _ (writeStats_movedInto own)
      · rfl

end Chassis

/-- The index of the switch that a call addresses, by an id or by a key. -/
def Call.target? : Call → Option UInt8
  | .create type owner _ => if type = .switch then none else some owner.switchIndex
  | .remove _ id | .set _ id _ | .get _ id _ => some id.switchIndex
  | .readStats _ id _ _ | .clearStats _ id _ => some id.switchIndex
  | .createEntry key _ | .removeEntry key => some key.switchId.switchIndex
  | .setEntry key _ | .getEntry key _ => some key.switchId.switchIndex
  | .flush owner _ => some owner.switchIndex

/-- The index of the switch that a command addresses. -/
def Command.target? : Command → Option UInt8
  | .call made => made.target?
  | .learn key _ => some key.switchId.switchIndex
  | .age => none
  | .administer message =>
      (ObjectKey.parse message.key).toOption.map fun key => key.switchId.switchIndex

namespace Chassis

variable {chassis host : Chassis} {index : UInt8} {now : UInt64}

theorem perform_movedInto {call : Call} (addressed : call.target? = some index) :
    (chassis.movedInto index host).perform now call =
      (chassis.perform now call).mapState fun state => state.movedInto index host := by
  cases call with
  | create type owner attrs =>
      have named : (if type = .switch then none else some owner.switchIndex) = some index :=
        addressed
      split at named
      · cases named
      · next other =>
          exact congrArg (fun made : Except Fault ObjectId × Chassis =>
              Outcome.mk (answerOf .created made.1) made.2 [])
            (create_movedInto other (Option.some.inj named) attrs)
  | remove type id =>
      exact settled_movedInto _ (remove_movedInto (Option.some.inj addressed) type)
  | set type id attr =>
      exact settled_movedInto _ (set_movedInto (Option.some.inj addressed) type attr)
  | get type id slots =>
      exact congrArg (fun read : Answer × Chassis => Outcome.mk read.1 read.2 [])
        (get_movedInto (Option.some.inj addressed) type slots)
  | createEntry key attrs =>
      exact settled_movedInto _
        (checked_movedInto _ fun _ => onSwitch_movedInto (Option.some.inj addressed) _)
  | removeEntry key =>
      exact settled_movedInto _
        (checked_movedInto _ fun _ => onSwitch_movedInto (Option.some.inj addressed) _)
  | setEntry key attr =>
      exact settled_movedInto _
        (checked_movedInto _ fun _ => setOn_movedInto (Option.some.inj addressed) _ _)
  | getEntry key slots =>
      exact congrArg (fun read : Answer × Chassis => Outcome.mk read.1 read.2 [])
        (getEntry_movedInto (Option.some.inj addressed) slots)
  | readStats type id stats mode =>
      exact settled_movedInto _ (onStats_movedInto (Option.some.inj addressed) type stats _)
  | clearStats type id stats =>
      exact settled_movedInto _ (onStats_movedInto (Option.some.inj addressed) type stats _)
  | flush owner attrs =>
      exact reported_movedInto _
        (checked_movedInto _ fun _ => onSwitch_movedInto (Option.some.inj addressed) _)

theorem learn_movedInto {key : FdbKey} (own : key.switchId.switchIndex = index)
    (port : ObjectId) :
    (chassis.movedInto index host).learn key port now =
      (chassis.learn key port now).mapState fun state => state.movedInto index host := by
  unfold learn
  exact reported_movedInto _ (checked_movedInto _ fun _ => onSwitch_movedInto own _)

/-- A command goes the same way wherever the switch is that it addresses. -/
theorem react_movedInto {command : Command} (addressed : command.target? = some index) :
    (chassis.movedInto index host).react now command =
      (chassis.react now command).mapState fun state => state.movedInto index host := by
  cases command with
  | call call =>
      exact congrArg (fun performed => performed.mapAnswer Response.answered)
        (perform_movedInto addressed)
  | learn key port =>
      exact congrArg (fun learned => learned.mapAnswer Response.settled)
        (learn_movedInto (Option.some.inj addressed) port)
  | age => cases addressed
  | administer message =>
      refine congrArg (fun administered => administered.mapAnswer Response.settled)
        (administer_movedInto fun {key} parsed => ?_)
      have named : ((ObjectKey.parse message.key).toOption.map fun key =>
          key.switchId.switchIndex) = some index := addressed
      rw [parsed] at named
      exact Option.some.inj named

/-! ## Aging -/

/-- The chassis without all switches but the one at an index. -/
def alone (chassis : Chassis) (index : UInt8) : Chassis :=
  { chassis with switches := chassis.switches.filter fun other _ => other = index }

theorem get?_alone (other : UInt8) :
    (chassis.alone index).switches.get? other =
      if other = index then chassis.switches.get? index else none := by
  unfold alone
  rw [OrderedMap.get?_filter]
  by_cases own : other = index
  · subst own
    cases chassis.switches.get? other <;> simp
  · simp [own]

theorem agreeAt_alone : AgreeAt index chassis (chassis.alone index) :=
  ⟨((get?_alone index).trans (if_pos rfl)).symm, rfl, rfl⟩

theorem get?_age (other : UInt8) :
    (chassis.age now).state.switches.get? other =
      (chassis.switches.get? other).map fun switch => (switch.age now).2 :=
  OrderedMap.get?_mapValues _ _ _

/-- An aging pass reports of each switch what it would report if the switch were alone. -/
theorem notifications_age :
    (chassis.age now).notifications =
      chassis.switches.keys.flatMap fun index => ((chassis.alone index).age now).notifications := by
  have single {entry : UInt8 × Switch} (member : entry ∈ chassis.switches.entries) :
      ((chassis.alone entry.1).age now).notifications =
        (entry.2.age now).1.map fun event => .fdbEvents [event] := by
    unfold alone age
    dsimp only
    rw [OrderedMap.values_filter_key, OrderedMap.get?_eq_some_iff.mpr member]
    exact congrArg (List.map _) (List.flatMap_singleton _ _)
  unfold OrderedMap.keys
  rw [List.flatMap_map, List.flatMap_congr fun entry member => single member]
  unfold age OrderedMap.values
  dsimp only
  rw [List.map_flatMap, List.flatMap_map]

/-- The switches of a chassis stand in the order of their indexes. -/
theorem sorted_indexes : chassis.switches.keys.Pairwise fun first second => first < second := by
  refine List.pairwise_map.mpr (chassis.switches.sorted.imp fun {first second} before => ?_)
  rcases List.cons_lt_cons_iff.mp before with less | ⟨_, impossible⟩
  · exact UInt8.lt_iff_toNat_lt.mpr less
  · cases impossible

/--
A command that addresses a switch leaves the other ones as they are, and its
answer, its notifications and the switch after it depend on that switch, the
counter of ids and the test mode only.  An aging pass does to each switch what
it would do if the switch were alone, and reports switch by switch in the order
of their indexes.
-/
theorem switches_are_isolated (chassis : Chassis) (now : UInt64) :
    (∀ {command index}, Command.target? command = some index →
      (∀ other, other ≠ index →
        (chassis.react now command).state.switches.get? other = chassis.switches.get? other) ∧
      ∀ {peer}, AgreeAt index chassis peer →
        (peer.react now command).answer = (chassis.react now command).answer ∧
        (peer.react now command).notifications = (chassis.react now command).notifications ∧
        AgreeAt index (peer.react now command).state (chassis.react now command).state) ∧
    (∀ index, (chassis.react now .age).state.switches.get? index =
      ((chassis.alone index).react now .age).state.switches.get? index) ∧
    (chassis.react now .age).notifications = (chassis.switches.keys.flatMap fun index =>
      ((chassis.alone index).react now .age).notifications) ∧
    chassis.switches.keys.Pairwise fun first second => first < second := by
  refine ⟨?_, ?_, notifications_age, sorted_indexes⟩
  · intro command index addressed
    constructor
    · -- A chassis that moves into itself stays what it is, so the law of moving is a frame.
      intro other different
      have law := @react_movedInto chassis chassis index now command addressed
      rw [movedInto_self] at law
      rw [law]
      exact (get?_movedInto other).trans (if_neg different)
    · intro peer agree
      have law := @react_movedInto chassis peer index now command addressed
      rw [movedInto_of_agreeAt agree] at law
      rw [law]
      exact ⟨rfl, rfl, agreeAt_movedInto⟩
  · intro index
    change (chassis.age now).state.switches.get? index =
      ((chassis.alone index).age now).state.switches.get? index
    rw [get?_age, get?_age, get?_alone, if_pos rfl]

/-- Two switches that have just been created. -/
def twoSwitches : List (UInt64 × Command) :=
  [(0, .call (.create .switch .null [])), (1, .call (.create .switch .null []))]

/-- An address that is seen on the first of two switches, in the VLAN of the second one. -/
def learnInForeignVlan : Command :=
  .learn ⟨.ofSwitchIndex 0, .zero, .compose 1 .vlan 9⟩ (.compose 0 .bridgePort 6)

theorem foreign_vlan_stays_apart :
    learnInForeignVlan.target? = some 0 ∧
      AgreeAt 0 ((start .singlePort).run twoSwitches)
        (((start .singlePort).run twoSwitches).alone 0) ∧
      (((start .singlePort).run twoSwitches).react 2 learnInForeignVlan).notifications.length = 1 ∧
      (((start .singlePort).run twoSwitches).react 2 learnInForeignVlan).state.switches.get? 1 =
        ((start .singlePort).run twoSwitches).switches.get? 1 ∧
      ((((start .singlePort).run twoSwitches).alone 0).react 2 learnInForeignVlan).notifications =
        (((start .singlePort).run twoSwitches).react 2 learnInForeignVlan).notifications := by
  have addressed : learnInForeignVlan.target? = some 0 := by
    decide
  have agree : AgreeAt 0 ((start .singlePort).run twoSwitches)
      (((start .singlePort).run twoSwitches).alone 0) :=
    agreeAt_alone
  obtain ⟨apart, _⟩ := switches_are_isolated ((start .singlePort).run twoSwitches) 2
  obtain ⟨others, alike⟩ := apart addressed
  obtain ⟨_, notifications, _⟩ := alike agree
  refine ⟨addressed, agree, ?_, others 1 (by decide), notifications⟩
  decide +kernel

end Chassis

end SwitchAbstraction
