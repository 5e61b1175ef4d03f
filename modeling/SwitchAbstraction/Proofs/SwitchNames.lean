import SwitchAbstraction.Proofs.Edits
import SwitchAbstraction.Proofs.Refusals

/-!
# Naming a switch

The registry knows a switch by its index.  An id addresses the switch at its
index if it has the type bits of switches, whatever its counter, so each switch
answers to its own id and to every alias that differs from it in the counter.
All other ids are refused.
-/

namespace SwitchAbstraction

open Results

/-- The id by which a command names the switch that it is to work on. -/
def Command.switchNamed? : Command → Option ObjectId
  | .call (.create type id _) => if type = .switch then none else some id
  | .call (.remove type id) => if type = .switch then some id else none
  | .call (.createEntry key _) => some key.switchId
  | .call (.removeEntry key) => some key.switchId
  | .call (.setEntry key _) => some key.switchId
  | .call (.getEntry key _) => some key.switchId
  | .call (.flush id _) => some id
  | .learn key _ => some key.switchId
  | _ => none

namespace Chassis

variable {chassis : Chassis} {id : ObjectId} {now : UInt64}

/-- An id addresses a switch by its type bits and its index; the counter plays no part. -/
def Addresses (chassis : Chassis) (id : ObjectId) : Prop :=
  id.type? = some .switch ∧ ∃ switch, chassis.switches.get? id.switchIndex = some switch

/-- A command fails and leaves every switch as it was. -/
structure Refuses (chassis : Chassis) (now : UInt64) (command : Command) : Prop where
  fails : ∃ fault, (chassis.outcome now command).answer = .error fault
  switches_eq : (chassis.outcome now command).state.switches = chassis.switches

theorem addresses_of_find {switch : Switch} (found : chassis.switches.find id = .ok switch) :
    chassis.Addresses id := by
  obtain ⟨typed, there⟩ := Registry.find_eq_ok_iff.mp found
  exact ⟨typed, switch, there⟩

theorem addresses_of_onSwitch {α : Type} {operation : Switch → Except Fault (α × Switch)}
    {value : α} {next : Chassis} (done : chassis.onSwitch id operation = .ok (value, next)) :
    chassis.Addresses id := by
  obtain ⟨switch, _, found, _, _⟩ := onSwitch_eq_ok_iff.mp done
  exact addresses_of_find found

/-! ## A command that succeeds addresses its switch -/

theorem attempt_of_settled {α : Type} {attempt : Except Fault (α × Chassis)} {reply : α → Reply}
    {given : Reply}
    (accepted : (chassis.settled attempt (answerOf reply)).answer.result = .ok given) :
    ∃ value next, attempt = .ok (value, next) := by
  unfold settled at accepted
  cases attempt with
  | error fault => cases accepted
  | ok pair => exact ⟨pair.1, pair.2, rfl⟩

/-- A call that is answered has done what was attempted. -/
theorem exists_of_settled {α : Type} {attempt : Except Fault (α × Chassis)} {reply : α → Reply}
    {given : Reply}
    (accepted : (chassis.settled attempt (answerOf reply)).answer.result = .ok given) :
    ∃ value, attempt = .ok (value, (chassis.settled attempt (answerOf reply)).state) := by
  obtain ⟨value, next, rfl⟩ := attempt_of_settled accepted
  exact ⟨value, rfl⟩

theorem attempt_of_reported {β : Type} {attempt : Except Fault (List FdbEvent × Chassis)}
    {answer : Except Fault Unit → β} (accepts : β → Prop)
    (refuses : ∀ fault, ¬ accepts (answer (.error fault)))
    (accepted : accepts (chassis.reported attempt answer).answer) :
    ∃ events next, attempt = .ok (events, next) := by
  unfold reported at accepted
  cases attempt with
  | error fault => exact absurd accepted (refuses fault)
  | ok pair => exact ⟨pair.1, pair.2, rfl⟩

theorem addresses_of_create {type : ObjectType} {attrs : List Attribute} {created : ObjectId}
    {next : Chassis} (other : type ≠ .switch)
    (done : chassis.create type id attrs = (.ok created, next)) : chassis.Addresses id := by
  obtain ⟨_, _, created⟩ := create_eq_ok done
  obtain ⟨_, switch, _, _, _, _, found, _⟩ := createObject_eq_ok (created other)
  exact addresses_of_find found

theorem addresses_of_setEntry {key : ObjectKey} {attr : Attribute} {value : Unit}
    {next : Chassis} (done : chassis.setEntry key attr now = .ok (value, next)) :
    chassis.Addresses key.switchId := by
  obtain ⟨_, _, rest⟩ := bind_eq_ok_iff.mp done
  obtain ⟨_, passed, _⟩ := bind_eq_ok_iff.mp rest
  obtain ⟨_, _, switch, found, _⟩ := checkWrite_eq_ok_iff.mp passed
  exact addresses_of_find found

/-- A read of an entry whose switch is not there changes nothing and fails. -/
theorem getEntry_of_not_addresses {key : ObjectKey} (missing : ¬ chassis.Addresses key.switchId)
    (slots : List Attribute) :
    ∃ fault, chassis.getEntry key slots = (⟨.error fault, slots⟩, chassis) := by
  unfold getEntry
  cases key.checkEntry with
  | error fault => exact ⟨fault, rfl⟩
  | ok _ =>
      unfold getOn
      cases passed : chassis.checkRead key slots with
      | error fault => exact ⟨fault, rfl⟩
      | ok switch =>
          obtain ⟨found, _⟩ := checkRead_eq_ok passed
          exact absurd (addresses_of_find found) missing

theorem addresses_of_perform {call : Call} {reply : Reply}
    (named : (Command.call call).switchNamed? = some id)
    (accepted : (chassis.perform now call).answer.result = .ok reply) :
    chassis.Addresses id := by
  cases call with
  | create type owner attrs =>
      by_cases kind : type = .switch
      · simp [Command.switchNamed?, kind] at named
      · simp only [Command.switchNamed?, if_neg kind, Option.some.injEq] at named
        subst named
        obtain ⟨created, done, _⟩ := map_eq_ok_iff.mp accepted
        exact addresses_of_create kind (Prod.ext done rfl)
  | remove type removed =>
      by_cases kind : type = .switch
      · simp only [Command.switchNamed?, if_pos kind, Option.some.injEq] at named
        subst named kind
        obtain ⟨_, next, done⟩ := attempt_of_settled accepted
        rcases remove_eq_ok done with ⟨_, switch, found, _⟩ | ⟨_, other, _⟩
        · exact addresses_of_find found
        · exact absurd rfl other
      · simp [Command.switchNamed?, kind] at named
  | createEntry key attrs =>
      cases named
      obtain ⟨_, next, done⟩ := attempt_of_settled accepted
      obtain ⟨_, _, rest⟩ := bind_eq_ok_iff.mp done
      exact addresses_of_onSwitch rest
  | removeEntry key =>
      cases named
      obtain ⟨_, next, done⟩ := attempt_of_settled accepted
      obtain ⟨_, _, rest⟩ := bind_eq_ok_iff.mp done
      exact addresses_of_onSwitch rest
  | setEntry key attr =>
      cases named
      obtain ⟨_, next, done⟩ := attempt_of_settled accepted
      exact addresses_of_setEntry done
  | getEntry key slots =>
      cases named
      by_contra missing
      obtain ⟨fault, same⟩ := @getEntry_of_not_addresses chassis key missing slots
      change (chassis.getEntry key slots).1.result = .ok reply at accepted
      rw [same] at accepted
      cases accepted
  | flush owner attrs =>
      cases named
      have refuses (fault : Fault) : ¬ (answerOf done (.error fault)).result = .ok reply := by
        intro impossible
        cases impossible
      obtain ⟨events, next, flushed⟩ :=
        attempt_of_reported (fun answer : Answer => answer.result = .ok reply) refuses accepted
      obtain ⟨_, _, rest⟩ := bind_eq_ok_iff.mp flushed
      exact addresses_of_onSwitch rest
  | set | get | readStats | clearStats => cases named

theorem addresses_of_learn {key : FdbKey} {port : ObjectId}
    (accepted : (chassis.learn key port now).answer = .ok ()) :
    chassis.Addresses key.switchId := by
  have refuses (fault : Fault) : ¬ (Except.error fault : Except Fault Unit) = .ok () := by
    intro impossible
    cases impossible
  obtain ⟨events, next, learned⟩ :=
    attempt_of_reported (fun answer : Except Fault Unit => answer = .ok ()) refuses accepted
  obtain ⟨_, _, rest⟩ := bind_eq_ok_iff.mp learned
  exact addresses_of_onSwitch rest

/-- Every command that names an id which addresses no switch is refused. -/
theorem refuses_of_not_addresses (missing : ¬ chassis.Addresses id) {command : Command}
    (named : command.switchNamed? = some id) : chassis.Refuses now command := by
  cases command with
  | call call =>
      cases result : (chassis.perform now call).answer.result with
      | ok reply => exact absurd (addresses_of_perform named result) missing
      | error fault =>
          refine ⟨⟨fault, map_eq_error_iff.mpr result⟩, ?_⟩
          cases read : (Command.call call).readKey? with
          | none => exact (perform_refused read result).switches_eq
          | some key =>
              cases call with
              | getEntry own slots =>
                  cases named
                  obtain ⟨fault, same⟩ := @getEntry_of_not_addresses chassis own missing slots
                  change (chassis.getEntry own slots).2.switches = chassis.switches
                  rw [same]
              | get => cases named
              | create | remove | set | createEntry | removeEntry | setEntry | readStats
              | clearStats | flush => cases read
  | learn key port =>
      cases named
      cases result : (chassis.learn key port now).answer with
      | ok _ => exact absurd (addresses_of_learn result) missing
      | error fault =>
          have unchanged : chassis.Unchanged (chassis.learn key port now) :=
            reported_unchanged (fun answer : Except Fault Unit => answer = .error fault)
              (ok_ne_error fault ()) result
          exact ⟨⟨fault, result⟩, unchanged.switches_eq⟩
  | age => cases named
  | administer message => cases named

/-- An id that addresses a switch can be used to remove it. -/
theorem remove_of_addresses (there : chassis.Addresses id) :
    chassis.remove .switch id =
      .ok ((), { chassis with switches := chassis.switches.erase id.switchIndex }) := by
  obtain ⟨typed, switch, registered⟩ := there
  have found : chassis.switches.find id = .ok switch :=
    Registry.find_eq_ok_iff.mpr ⟨typed, registered⟩
  have named : ObjectKey.ofTypedId .switch id = .ok (.object id) := by
    refine bind_eq_ok_iff.mpr ⟨(), (ObjectId.expectType_eq_ok_iff (by decide)).mpr typed, ?_⟩
    unfold ObjectKey.ofId
    rw [typed]
    rfl
  refine bind_eq_ok_iff.mpr ⟨.object id, named, ?_⟩
  rw [if_pos rfl]
  exact bind_eq_ok_iff.mpr ⟨_, Registry.take_eq_ok_iff.mpr ⟨found, rfl⟩, rfl⟩

theorem accepts_of_addresses (there : chassis.Addresses id) :
    (chassis.outcome now (.call (.remove .switch id))).answer = .ok () := by
  change (chassis.settled (chassis.remove .switch id) (answerOf done)).answer.result.map _ = _
  rw [remove_of_addresses there]
  rfl

/-! ## Whose keys are stored -/

/-- A switch is registered at the index in its id. -/
theorem isKept_id :
    IsKept (fun _ => True) fun index switch => switch.id = .ofSwitchIndex index where
  built _ _ built := built.id_eq
  edited _ edit _ same := edit.id_eq.trans same
  added _ _ equips inserted _ same := by
    rw [Switch.id_insert inserted, (Switch.equip_objects equips).2.2]
    exact same
  aged now same := (Switch.expireAll_id _).trans same

/-- What holds of every entry key that is let in holds of every entry key that is stored. -/
theorem isKept_entries {allowed : Command → Prop} {motive : UInt8 → ObjectKey → Prop}
    (entered : ∀ {command key}, allowed command → command.entered? = some key →
      key.switchId.type? = some .switch → motive key.switchId.switchIndex key) :
    IsKept allowed fun index switch => ∀ {key attrs}, switch.object? key = some attrs →
      key.id? = none → motive index key where
  built _ _ built := by
    intro key attrs stored entry
    obtain ⟨object, _, rfl, _⟩ := built.object?_iff.mp stored
    cases entry
  edited permitted edit typed others := by
    intro key attrs stored entry
    rcases edit.stored_before stored with ⟨before, there⟩ | ⟨named, rfl, _⟩
    · exact others there entry
    · exact entered permitted named typed
  added _ _ equips inserted _ others := by
    intro key attrs stored entry
    rw [Switch.object?_insert_of_equip equips inserted] at stored
    split at stored
    · next own =>
        subst own
        cases entry
    · exact others stored entry
  aged now others := by
    intro key attrs stored entry
    exact others (Switch.stored_before_expireAll stored) entry

/--
A command that names a switch by an id is refused, and changes nothing, exactly
if the id lacks the type bits of switches or the index of a registered one.  A
stored entry names its switch up to the counter, and as long as entries are
entered under the ids of switches themselves, by the id of the switch; then no
switch holds two entries for one address in one bridge or VLAN.
-/
theorem refuses_iff_not_addresses (settings : Settings) (history : List (UInt64 × Command)) :
    (∀ id, (∀ now command, command.switchNamed? = some id →
        ((start settings).run history).Refuses now command) ↔
      ¬ ((start settings).run history).Addresses id) ∧
    (∀ {index switch}, ((start settings).run history).switches.get? index = some switch →
      switch.id = .ofSwitchIndex index ∧
      ∀ {key attrs}, switch.object? key = some attrs → key.id? = none →
        key.switchId.type? = some .switch ∧ key.switchId.switchIndex = index) ∧
    ((∀ entry ∈ history, ∀ key, entry.2.entered? = some key →
        key.switchId = .ofSwitchIndex key.switchId.switchIndex) →
      ∀ {index switch}, ((start settings).run history).switches.get? index = some switch →
        (∀ {key attrs}, switch.object? key = some attrs → key.id? = none →
          key.switchId = switch.id) ∧
        ∀ {first second : FdbKey}, switch.contains (.fdb first) = true →
          switch.contains (.fdb second) = true → first.mac = second.mac →
          first.bvId = second.bvId → first = second) := by
  refine ⟨?_, ?_, ?_⟩
  · intro id
    constructor
    · intro refused there
      obtain ⟨⟨fault, failed⟩, _⟩ := refused 0 (.call (.remove .switch id)) rfl
      rw [accepts_of_addresses there] at failed
      cases failed
    · intro missing now command named
      exact refuses_of_not_addresses missing named
  · intro index switch registered
    have always : ∀ entry ∈ history, (fun _ : Command => True) entry.2 := fun _ _ => trivial
    refine ⟨isKept_id.run settings always registered, ?_⟩
    intro key attrs stored entry
    have kept := @isKept_entries (fun _ => True)
      (fun index key => key.switchId.type? = some .switch ∧ key.switchId.switchIndex = index)
      fun _ _ typed => ⟨typed, rfl⟩
    exact kept.run settings always registered stored entry
  · intro canonical index switch registered
    have kept := @isKept_entries
      (fun command => ∀ key, command.entered? = some key →
        key.switchId = .ofSwitchIndex key.switchId.switchIndex)
      (fun index key => key.switchId = .ofSwitchIndex index)
      fun permitted named _ => permitted _ named
    have own : switch.id = .ofSwitchIndex index :=
      isKept_id.run settings (fun _ _ => trivial) registered
    have named {key : ObjectKey} {attrs : Attributes} (stored : switch.object? key = some attrs)
        (entry : key.id? = none) : key.switchId = switch.id := by
      rw [own]
      exact kept.run settings canonical registered stored entry
    refine ⟨named, ?_⟩
    intro first second firstThere secondThere macs domains
    obtain ⟨_, firstStored⟩ := Switch.contains_iff.mp firstThere
    obtain ⟨_, secondStored⟩ := Switch.contains_iff.mp secondThere
    have switches : first.switchId = second.switchId :=
      (named firstStored rfl).trans (named secondStored rfl).symm
    cases first
    cases second
    cases switches
    cases macs
    cases domains
    rfl

theorem missing_switch_refused :
    ((start .singlePort).run [(0, .call (.create .switch .null []))]).Refuses 7
      (.call (.flush (.ofSwitchIndex 1) [])) := by
  obtain ⟨refused, _, _⟩ :=
    refuses_iff_not_addresses .singlePort [(0, .call (.create .switch .null []))]
  refine (refused (.ofSwitchIndex 1)).mpr ?_ 7 _ rfl
  rintro ⟨_, switch, registered⟩
  have absent : (((start .singlePort).run [(0, .call (.create .switch .null []))]).switches.get?
      (ObjectId.ofSwitchIndex 1).switchIndex).isNone = true := by
    decide +kernel
  rw [registered] at absent
  cases absent

/-- An alias of the first switch, which differs from its id in the counter. -/
def firstAlias : ObjectId :=
  .compose 0 .switch 5

/-- The alias is the id of no switch, and yet removes one and holds entries of its own. -/
theorem firstAlias_addresses_switch :
    (∀ switch ∈ ((start .singlePort).step 0 (.call (.create .switch .null []))).switches.values,
      switch.id ≠ firstAlias) ∧
    (((start .singlePort).step 0 (.call (.create .switch .null []))).outcome 0
      (.call (.remove .switch firstAlias))).answer = .ok () ∧
    (((start .singlePort).step 0 (.call (.create .switch .null []))).step 0
      (.call (.remove .switch firstAlias))).switches.size = 0 ∧
    (((start .singlePort).run
      [(0, .call (.create .switch .null [])),
        (0, .call (.createEntry (.fdb ⟨.ofSwitchIndex 0, .zero, .null⟩)
          [⟨.fdbEntryType, .s32 FdbEntryType.static.code⟩])),
        (0, .call (.createEntry (.fdb ⟨firstAlias, .zero, .null⟩)
          [⟨.fdbEntryType, .s32 FdbEntryType.static.code⟩]))]).switches.values.map fun switch =>
      (switch.contains (.fdb ⟨.ofSwitchIndex 0, .zero, .null⟩),
        switch.contains (.fdb ⟨firstAlias, .zero, .null⟩))) = [(true, true)] := by
  decide +kernel

end Chassis

end SwitchAbstraction
