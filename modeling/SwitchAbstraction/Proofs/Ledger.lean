import SwitchAbstraction.Proofs.FreshIds
import SwitchAbstraction.Proofs.Runs

/-!
# The ledger of ids

The ids that a run hands out are all different, and every object that is ever
stored has one of them.  An id that has lost its object, or whose switch was
removed, is retired: it names nothing from then on.
-/

namespace SwitchAbstraction

open Results

namespace Chassis

variable {settings : Settings} {chassis next : Chassis} {id : ObjectId}
  {log ids : List ObjectId}

/-- The ids handed out so far account for everything that has a name. -/
structure Ledger (log : List ObjectId) (chassis : Chassis) : Prop where
  distinct : log.Nodup
  spent : ∀ id ∈ log, chassis.Spent id
  named : ∀ {id}, chassis.Names id → id ∈ log
  registered : ∀ {index switch}, chassis.switches.get? index = some switch →
    index.toNat < chassis.indexes.taken

theorem Ledger.advance (ledger : Ledger log chassis) (advances : chassis.Advances next ids) :
    Ledger (log ++ ids) next where
  distinct := by
    refine List.Nodup.append ledger.distinct advances.distinct ?_
    intro id old new
    exact advances.fresh id new (ledger.spent id old)
  spent := by
    intro id member
    rcases List.mem_append.mp member with old | new
    · exact advances.spent_mono (ledger.spent id old)
    · exact advances.spent id new
  named := by
    intro id names
    rcases advances.named names with old | new
    · exact List.mem_append_left _ (ledger.named old)
    · exact List.mem_append_right _ new
  registered := by
    intro index switch registered
    rcases advances.registered registered with ⟨before, there⟩ | ⟨_, below⟩
    · exact Nat.lt_of_lt_of_le (ledger.registered there) advances.taken_le
    · exact below

/-- No switch is registered at an index that is still to be handed out. -/
theorem Ledger.get?_of_allocate (ledger : Ledger log chassis) {index : UInt8}
    {indexes : SwitchIndexPool} (taken : chassis.indexes.allocate = .ok (index, indexes)) :
    chassis.switches.get? index = none := by
  cases registered : chassis.switches.get? index with
  | none => rfl
  | some old =>
      have below := ledger.registered registered
      rw [(SwitchIndexPool.allocate_eq_ok taken).1] at below
      exact absurd below (Nat.lt_irrefl _)

theorem ledger_start (settings : Settings) : Ledger [] (start settings) where
  distinct := List.nodup_nil
  spent _ member := by cases member
  named := by
    rintro id ⟨switch, attrs, registered, _⟩
    cases registered
  registered registered := by cases registered

/-- The ids that a run hands out account for everything that has a name after it. -/
theorem ledger_run (settings : Settings) (history : List (UInt64 × Command)) :
    Ledger ((start settings).issuedBy history) ((start settings).run history) := by
  refine @run_induction Ledger (fun _ => True) ?_ history (fun _ _ => trivial) _ []
    (ledger_start settings)
  intro now command chassis next log ids _ move ledger
  exact ledger.advance (advances_of_move move)

theorem issuedBy_append (chassis : Chassis) (history : List (UInt64 × Command))
    (now : UInt64) (command : Command) :
    chassis.issuedBy (history ++ [(now, command)]) =
      chassis.issuedBy history ++ (chassis.run history).issued command := by
  induction history generalizing chassis with
  | nil =>
      change chassis.issued command ++ [] = chassis.issued command
      exact List.append_nil _
  | cons entry rest ih =>
      change chassis.issued entry.2 ++ (chassis.step entry.1 entry.2).issuedBy (rest ++ _) = _
      rw [ih, ← List.append_assoc]
      rfl

theorem run_append (chassis : Chassis) (history later : List (UInt64 × Command)) :
    chassis.run (history ++ later) = (chassis.run history).run later :=
  List.foldl_append

/-- An object is stored on the switch whose index its id carries. -/
theorem isKept_switchIndex : IsKept (fun _ => True) fun index switch =>
    ∀ {id attrs}, switch.object? (.object id) = some attrs → id.switchIndex = index where
  built _ _ built := by
    intro id attrs stored
    obtain ⟨entry, listed, same, _⟩ := built.object?_iff.mp stored
    rw [ObjectKey.object.inj same]
    exact Bootstrap.switchIndex_of_mem_issued
      (Bootstrap.mem_issued_of_mem_objects built.fits listed)
  edited _ edit _ others := by
    intro id attrs stored
    rcases edit.stored_before stored with ⟨before, there⟩ | ⟨_, _, entry⟩
    · exact others there
    · cases entry
  added _ _ equips inserted drawn others := by
    intro id attrs stored
    rw [Switch.object?_insert_of_equip equips inserted] at stored
    split at stored
    · next own =>
        rw [ObjectKey.object.inj own]
        exact drawn.2
    · exact others stored
  aged now others := by
    intro id attrs stored
    exact others (Switch.stored_before_expireAll stored)

/-! ## Retired ids -/

/-- An id that has lost its object for good, or whose switch is gone for good. -/
inductive Retired (chassis : Chassis) (id : ObjectId) : Prop where
  | object (spent : chassis.Spent id) (other : id.type? ≠ some .switch)
      (unnamed : ¬ chassis.Names id)
  | switch (taken : id.switchIndex.toNat < chassis.indexes.taken)
      (absent : chassis.switches.get? id.switchIndex = none)

theorem Retired.advance (retired : chassis.Retired id) (advances : chassis.Advances next ids) :
    next.Retired id := by
  cases retired with
  | object spent other unnamed =>
      refine .object (advances.spent_mono spent) other fun names => ?_
      rcases advances.named names with old | new
      · exact unnamed old
      · exact advances.fresh id new spent
  | switch taken absent =>
      refine .switch (Nat.lt_of_lt_of_le taken advances.taken_le) ?_
      cases registered : next.switches.get? id.switchIndex with
      | none => rfl
      | some switch =>
          rcases advances.registered registered with ⟨before, there⟩ | ⟨beyond, _⟩
          · rw [absent] at there
            cases there
          · exact absurd taken (Nat.not_lt.mpr beyond)

theorem Retired.run (retired : chassis.Retired id) (later : List (UInt64 × Command)) :
    (chassis.run later).Retired id := by
  refine @run_induction (fun _ chassis => chassis.Retired id) (fun _ => True) ?_ later
    (fun _ _ => trivial) chassis [] retired
  intro now command chassis next log ids _ move retired
  exact retired.advance (advances_of_move move)

theorem Retired.unnamed (retired : chassis.Retired id) : ¬ chassis.Names id := by
  rintro ⟨switch, attrs, registered, stored⟩
  cases retired with
  | object _ _ unnamed => exact unnamed ⟨switch, attrs, registered, stored⟩
  | switch _ absent =>
      rw [absent] at registered
      cases registered

theorem Retired.not_found (retired : chassis.Retired id) {switch : Switch} :
    chassis.switches.find id ≠ .ok switch := by
  intro found
  obtain ⟨typed, registered⟩ := Registry.find_eq_ok_iff.mp found
  cases retired with
  | object _ other _ => exact other typed
  | switch _ absent =>
      rw [absent] at registered
      cases registered

/-! ## What a call on an id needs -/

theorem registered_of_find {switch : Switch}
    (found : chassis.switches.find id.switchId = .ok switch) :
    chassis.switches.get? id.switchIndex = some switch := by
  obtain ⟨_, registered⟩ := Registry.find_eq_ok_iff.mp found
  unfold ObjectId.switchId at registered
  rw [ObjectId.switchIndex_ofSwitchIndex] at registered
  exact registered

theorem names_of_contains {switch : Switch}
    (found : chassis.switches.find (ObjectKey.object id).switchId = .ok switch)
    (there : switch.contains (.object id) = true) : chassis.Names id := by
  obtain ⟨attrs, stored⟩ := Switch.contains_iff.mp there
  exact ⟨switch, attrs, registered_of_find found, stored⟩

theorem names_of_set {type : ObjectType} {attr : Attribute} {now : UInt64} {value : Unit}
    (done : chassis.set type id attr now = .ok (value, next)) : chassis.Names id := by
  obtain ⟨key, named, rest⟩ := bind_eq_ok_iff.mp done
  obtain ⟨rfl, _, _⟩ := ObjectKey.ofTypedId_eq_ok named
  obtain ⟨_, passed, _⟩ := bind_eq_ok_iff.mp rest
  obtain ⟨_, _, switch, found, there⟩ := checkWrite_eq_ok_iff.mp passed
  exact names_of_contains found there

theorem names_of_get {type : ObjectType} {slots : List Attribute} {reply : Reply}
    (done : (chassis.get type id slots).1.result = .ok reply) : chassis.Names id := by
  unfold get at done
  cases named : ObjectKey.ofTypedId type id with
  | error fault =>
      rw [named] at done
      cases done
  | ok key =>
      obtain ⟨rfl, _, _⟩ := ObjectKey.ofTypedId_eq_ok named
      rw [named] at done
      dsimp only at done
      unfold getOn at done
      cases passed : chassis.checkRead (.object id) slots with
      | error fault =>
          rw [passed] at done
          cases done
      | ok switch =>
          obtain ⟨found, there⟩ := checkRead_eq_ok passed
          exact names_of_contains found there

theorem names_of_removeObject {switch changed : Switch}
    (found : chassis.switches.find id.switchId = .ok switch)
    (removed : switch.removeObject (.object id) = .ok ((), changed)) : chassis.Names id := by
  unfold Switch.removeObject at removed
  split at removed
  · cases removed
  · next attrs rest taken =>
      obtain ⟨stored, _⟩ := Switch.remove?_eq_some_iff.mp taken
      exact ⟨switch, attrs, registered_of_find found, stored⟩

/-- No call on a retired id succeeds. -/
theorem Retired.refused (retired : chassis.Retired id) (type : ObjectType) (now : UInt64) :
    (∃ fault, chassis.remove type id = .error fault) ∧
      (∀ attr, ∃ fault, chassis.set type id attr now = .error fault) ∧
      ∀ slots, ∃ fault, (chassis.get type id slots).1.result = .error fault := by
  refine ⟨?_, ?_, ?_⟩
  · cases done : chassis.remove type id with
    | error fault => exact ⟨fault, rfl⟩
    | ok pair =>
        rcases remove_eq_ok done with ⟨_, switch, found, _⟩ | ⟨_, _, _, _, found, removed, _⟩
        · exact absurd found retired.not_found
        · exact absurd (names_of_removeObject found removed) retired.unnamed
  · intro attr
    cases done : chassis.set type id attr now with
    | error fault => exact ⟨fault, rfl⟩
    | ok pair => exact absurd (names_of_set done) retired.unnamed
  · intro slots
    cases done : (chassis.get type id slots).1.result with
    | error fault => exact ⟨fault, rfl⟩
    | ok reply => exact absurd (names_of_get done) retired.unnamed

/-- A removal retires the id, and with a switch all ids that carry its index. -/
theorem Ledger.retired_of_remove (ledger : Ledger log chassis) {type : ObjectType} {value : Unit}
    (done : chassis.remove type id = .ok (value, next)) {gone : ObjectId}
    (covered : gone = id ∨ type = .switch ∧ gone.switchIndex = id.switchIndex) :
    next.Retired gone := by
  rcases remove_eq_ok done with
    ⟨_, switch, found, rfl⟩ | ⟨typed, other, switch, changed, found, removed, rfl⟩
  · have index : gone.switchIndex = id.switchIndex := by
      rcases covered with rfl | ⟨_, same⟩
      · rfl
      · exact same
    obtain ⟨_, registered⟩ := Registry.find_eq_ok_iff.mp found
    refine .switch ?_ ?_
    · rw [index]
      exact ledger.registered registered
    · rw [index, OrderedMap.get?_erase, if_pos rfl]
  · have same : gone = id := covered.resolve_right fun isSwitch => other isSwitch.1
    subst same
    have spent := ledger.spent gone (ledger.named (names_of_removeObject found removed))
    refine .object spent ?_ ?_
    · rw [typed]
      intro isSwitch
      exact other (Option.some.inj isSwitch)
    · rintro ⟨after, attrs, there, stored⟩
      rw [get?_put] at there
      unfold ObjectId.switchId at there
      rw [ObjectId.switchIndex_ofSwitchIndex, if_pos rfl] at there
      cases there
      rw [Switch.object?_removeObject removed, if_pos rfl] at stored
      cases stored

end Chassis

end SwitchAbstraction
