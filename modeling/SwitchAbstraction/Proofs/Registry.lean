import SwitchAbstraction.Chassis
import SwitchAbstraction.OrderedMap.Lemmas
import SwitchAbstraction.Proofs.Results

/-!
# Looking switches up

The registry is keyed by the index in an id, so a look-up reads the type bits
and the index of an id and no more.  An operation on one switch succeeds
exactly when the look-up and the operation do, and then changes nothing but
what is registered at that index.
-/

namespace SwitchAbstraction

open Results

namespace Registry

theorem indexOf_eq_ok_iff {id : ObjectId} {index : UInt8} :
    indexOf id = .ok index ↔ id.type? = some .switch ∧ id.switchIndex = index := by
  have passes : id.expectType .switch = .ok () ↔ id.type? = some .switch :=
    ObjectId.expectType_eq_ok_iff (by decide)
  unfold indexOf
  rw [map_eq_ok_iff, ← passes]
  constructor
  · rintro ⟨_, passed, same⟩
    exact ⟨passed, same⟩
  · rintro ⟨passed, same⟩
    exact ⟨(), passed, same⟩

/-- A look-up finds a switch exactly when the id has the type of switches and the switch is
registered at its index. -/
theorem find_eq_ok_iff {registry : Registry} {id : ObjectId} {switch : Switch} :
    registry.find id = .ok switch ↔
      id.type? = some .switch ∧ registry.get? id.switchIndex = some switch := by
  unfold find
  cases indexed : indexOf id with
  | error fault =>
      constructor
      · intro impossible
        cases impossible
      · rintro ⟨typed, _⟩
        rw [indexOf_eq_ok_iff.mpr ⟨typed, rfl⟩] at indexed
        cases indexed
  | ok index =>
      obtain ⟨typed, rfl⟩ := indexOf_eq_ok_iff.mp indexed
      dsimp only
      cases registry.get? id.switchIndex with
      | none => simp
      | some found => simp [typed]

theorem take_eq_ok_iff {registry rest : Registry} {id : ObjectId} {switch : Switch} :
    registry.take id = .ok (switch, rest) ↔
      registry.find id = .ok switch ∧ rest = registry.erase id.switchIndex := by
  unfold take
  rw [map_eq_ok_iff]
  constructor
  · rintro ⟨found, looked, same⟩
    cases same
    exact ⟨looked, rfl⟩
  · rintro ⟨looked, rfl⟩
    exact ⟨switch, looked, rfl⟩

end Registry

namespace Chassis

variable {chassis next : Chassis} {id : ObjectId} {switch : Switch} {α : Type}

theorem get?_put (index : UInt8) :
    (chassis.put id switch).switches.get? index =
      if index = id.switchIndex then some switch else chassis.switches.get? index :=
  OrderedMap.get?_insert _ _ _ _

/-- Putting back the switch that is there changes nothing. -/
theorem put_of_get? (there : chassis.switches.get? id.switchIndex = some switch) :
    chassis.put id switch = chassis := by
  unfold put
  rw [OrderedMap.insert_of_get? there]

/-- An operation on one switch succeeds exactly when the look-up and the operation do. -/
theorem onSwitch_eq_ok_iff {operation : Switch → Except Fault (α × Switch)} {value : α} :
    chassis.onSwitch id operation = .ok (value, next) ↔
      ∃ found changed, chassis.switches.find id = .ok found ∧
        operation found = .ok (value, changed) ∧ next = chassis.put id changed := by
  unfold onSwitch
  cases chassis.switches.find id with
  | error fault => simp
  | ok found =>
      simp only
      rw [map_eq_ok_iff]
      constructor
      · rintro ⟨⟨_, changed⟩, done, same⟩
        cases same
        exact ⟨found, changed, rfl, done, rfl⟩
      · rintro ⟨_, changed, same, done, rfl⟩
        cases same
        exact ⟨(value, changed), done, rfl⟩

end Chassis

end SwitchAbstraction
