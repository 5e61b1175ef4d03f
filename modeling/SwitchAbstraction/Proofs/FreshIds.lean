import SwitchAbstraction.Proofs.Edits

/-!
# Ids are handed out once

An id is spent once its counter, or the index of the switch that it is the id
of, has been handed out.  Every move hands out ids that were not spent before
and are spent after it, and nothing gets a name that is not handed out by the
move.  So no id is ever handed out twice, and what has lost its name never gets
it back.
-/

namespace SwitchAbstraction

open Results

namespace ObjectId

/-- An id that counters up to the last and indexes below a number account for. -/
inductive IsSpent (last taken : Nat) (id : ObjectId) : Prop where
  | counted (other : id.type? ≠ some .switch) (upTo : id.counter ≤ last)
  | named {index : UInt8} (own : id = .ofSwitchIndex index) (below : index.toNat < taken)

variable {id : ObjectId} {last taken : Nat}

theorem IsSpent.mono (spent : id.IsSpent last taken) {later more : Nat} (lastLe : last ≤ later)
    (takenLe : taken ≤ more) : id.IsSpent later more := by
  cases spent with
  | counted other upTo => exact .counted other (Nat.le_trans upTo lastLe)
  | named own below => exact .named own (Nat.lt_of_lt_of_le below takenLe)

theorem IsDrawn.isSpent {index : UInt8} {first : Nat} (drawn : id.IsDrawn index first last) :
    id.IsSpent last taken :=
  .counted drawn.type_ne drawn.upTo

theorem IsDrawn.not_isSpent {index : UInt8} {first : Nat} (drawn : id.IsDrawn index first last) :
    ¬ id.IsSpent first taken := by
  intro spent
  cases spent with
  | counted _ upTo => exact absurd drawn.after (Nat.not_lt.mpr upTo)
  | named own _ =>
      apply drawn.type_ne
      rw [own]
      exact type?_ofSwitchIndex _

/-- The id of a switch is spent exactly if its index is. -/
theorem isSpent_ofSwitchIndex_iff {index : UInt8} :
    (ofSwitchIndex index).IsSpent last taken ↔ index.toNat < taken := by
  constructor
  · intro spent
    cases spent with
    | counted other _ => exact absurd (type?_ofSwitchIndex index) other
    | named own below =>
        have same := congrArg switchIndex own
        rw [switchIndex_ofSwitchIndex, switchIndex_ofSwitchIndex] at same
        rw [same]
        exact below
  · intro below
    exact .named rfl below

end ObjectId

namespace SwitchIndexPool

theorem allocate_eq_ok {pool rest : SwitchIndexPool} {index : UInt8}
    (taken : pool.allocate = .ok (index, rest)) :
    index.toNat = pool.taken ∧ rest.taken = pool.taken + 1 := by
  unfold allocate at taken
  split at taken
  · cases taken
  · next fits =>
      cases taken
      unfold limit at fits
      refine ⟨?_, rfl⟩
      rw [UInt8.toNat_ofNat']
      exact Nat.mod_eq_of_lt (Nat.not_le.mp fits)

end SwitchIndexPool

namespace Bootstrap

variable {boot : Bootstrap} {built : Except Fault Switch} {ids : IdAllocator}

theorem switchIndex_of_mem_issued {id : ObjectId} (member : id ∈ boot.issued) :
    id.switchIndex = boot.index := by
  obtain ⟨_, drawn, _⟩ :=
    @IdAllocator.draw_spec ⟨boot.last⟩ boot.index boot.plan isCounted_of_mem_plan
  rcases List.mem_cons.mp member with rfl | inRest
  · exact ObjectId.switchIndex_ofSwitchIndex _
  · exact (drawn id inRest).index_eq

/-- The ids of a new switch are new, and all different. -/
theorem issued_spec {taken : Nat} (index : boot.index.toNat = taken)
    (done : boot.run = (built, ids)) :
    boot.last ≤ ids.last ∧ boot.issued.Nodup ∧
      ∀ id ∈ boot.issued, ¬ id.IsSpent boot.last taken ∧ id.IsSpent ids.last (taken + 1) := by
  have final : ids = ((⟨boot.last⟩ : IdAllocator).draw boot.index boot.plan).2 := by
    rw [← run_ids, done]
  obtain ⟨later, drawn, _⟩ :=
    @IdAllocator.draw_spec ⟨boot.last⟩ boot.index boot.plan isCounted_of_mem_plan
  rw [← final] at later drawn
  refine ⟨later, nodup_issued, fun id member => ?_⟩
  rcases List.mem_cons.mp member with rfl | inRest
  · unfold switchId
    rw [ObjectId.isSpent_ofSwitchIndex_iff, ObjectId.isSpent_ofSwitchIndex_iff, index]
    exact ⟨Nat.lt_irrefl _, Nat.lt_succ_self _⟩
  · have own := drawn id inRest
    exact ⟨own.not_isSpent, own.isSpent⟩

end Bootstrap

namespace Chassis

variable {chassis next : Chassis} {id : ObjectId} {ids : List ObjectId}

/-- An id that was handed out, or whose place in the order of ids was passed over. -/
def Spent (chassis : Chassis) (id : ObjectId) : Prop :=
  id.IsSpent chassis.ids.last chassis.indexes.taken

/-- An id names an object of the switch at its index. -/
def Names (chassis : Chassis) (id : ObjectId) : Prop :=
  ∃ switch attrs, chassis.switches.get? id.switchIndex = some switch ∧
    switch.object? (.object id) = some attrs

/-- How a chassis goes on from another one by handing out ids. -/
structure Advances (chassis next : Chassis) (ids : List ObjectId) : Prop where
  last_le : chassis.ids.last ≤ next.ids.last
  taken_le : chassis.indexes.taken ≤ next.indexes.taken
  distinct : ids.Nodup
  fresh : ∀ id ∈ ids, ¬ chassis.Spent id
  spent : ∀ id ∈ ids, next.Spent id
  named : ∀ {id}, next.Names id → chassis.Names id ∨ id ∈ ids
  registered : ∀ {index switch}, next.switches.get? index = some switch →
    (∃ before, chassis.switches.get? index = some before) ∨
      (chassis.indexes.taken ≤ index.toNat ∧ index.toNat < next.indexes.taken)

theorem Advances.spent_mono (advances : chassis.Advances next ids) (spent : chassis.Spent id) :
    next.Spent id :=
  spent.mono advances.last_le advances.taken_le

/-- A chassis goes on without handing out ids if its switches get no new names. -/
theorem advances_nil (last_le : chassis.ids.last ≤ next.ids.last)
    (taken_eq : next.indexes.taken = chassis.indexes.taken)
    (before : ∀ {index switch}, next.switches.get? index = some switch →
      ∃ old, chassis.switches.get? index = some old ∧
        ∀ {id attrs}, switch.object? (.object id) = some attrs →
          ∃ stored, old.object? (.object id) = some stored) : chassis.Advances next [] where
  last_le := last_le
  taken_le := Nat.le_of_eq taken_eq.symm
  distinct := List.nodup_nil
  fresh _ member := by cases member
  spent _ member := by cases member
  named := by
    rintro id ⟨switch, attrs, registered, stored⟩
    obtain ⟨old, there, objects⟩ := before registered
    obtain ⟨_, found⟩ := objects stored
    exact .inl ⟨old, _, there, found⟩
  registered := by
    intro index switch registered
    obtain ⟨old, there, _⟩ := before registered
    exact .inl ⟨old, there⟩

/-- What is registered after a switch was put back is that switch or was registered before. -/
theorem registered_put {owner : ObjectId} {old changed switch : Switch} {index : UInt8}
    (there : chassis.switches.get? owner.switchIndex = some old)
    (registered : (chassis.put owner changed).switches.get? index = some switch) :
    (index = owner.switchIndex ∧ switch = changed ∧ chassis.switches.get? index = some old) ∨
      chassis.switches.get? index = some switch := by
  rw [get?_put] at registered
  split at registered
  · next same =>
      cases registered
      exact .inl ⟨same, rfl, same ▸ there⟩
  · exact .inr registered

theorem advances_edit {now : UInt64} {command : Command} {owner : ObjectId}
    {switch changed : Switch} (found : chassis.switches.find owner = .ok switch)
    (edit : Edit now command owner switch changed) :
    chassis.Advances (chassis.put owner changed) [] := by
  obtain ⟨_, there⟩ := Registry.find_eq_ok_iff.mp found
  refine advances_nil (Nat.le_refl _) rfl ?_
  intro index other registered
  rcases registered_put there registered with ⟨_, rfl, same⟩ | before
  · refine ⟨switch, same, ?_⟩
    intro id attrs stored
    rcases edit.stored_before stored with earlier | ⟨_, _, entry⟩
    · exact earlier
    · cases entry
  · exact ⟨other, before, fun stored => ⟨_, stored⟩⟩

theorem advances_age (now : UInt64) : chassis.Advances (chassis.age now).state [] := by
  refine advances_nil (Nat.le_refl _) rfl ?_
  intro index switch registered
  unfold age at registered
  rw [OrderedMap.get?_mapValues] at registered
  obtain ⟨old, there, rfl⟩ := Option.map_eq_some_iff.mp registered
  refine ⟨old, there, ?_⟩
  intro id attrs stored
  exact ⟨attrs, Switch.stored_before_expireAll stored⟩

theorem advances_createObject {type : ObjectType} {owner : ObjectId}
    {switch equipped changed : Switch} {attrs stored : Attributes} {rest : IdAllocator}
    (counted : type.isCounted = true) (found : chassis.switches.find owner = .ok switch)
    (equips : switch.equip type attrs = .ok (stored, equipped))
    (drawn : chassis.ids.allocate owner.switchIndex type = .ok (id, rest))
    (inserted : equipped.insert (.object id) stored = .ok changed) :
    chassis.Advances { chassis.put owner changed with ids := rest } [id] := by
  obtain ⟨_, there⟩ := Registry.find_eq_ok_iff.mp found
  obtain ⟨isDrawn, _⟩ := IdAllocator.isDrawn_of_allocate counted drawn
  refine ⟨?_, Nat.le_refl _, List.nodup_singleton id, ?_, ?_, ?_, ?_⟩
  · exact Nat.le_trans (Nat.le_of_lt isDrawn.after) isDrawn.upTo
  · intro own member
    rw [List.mem_singleton.mp member]
    exact isDrawn.not_isSpent
  · intro own member
    rw [List.mem_singleton.mp member]
    exact isDrawn.isSpent
  · rintro own ⟨other, kept, registered, named⟩
    rcases registered_put there registered with ⟨_, rfl, same⟩ | before
    · rw [Switch.object?_insert_of_equip equips inserted] at named
      split at named
      · next new =>
          rw [ObjectKey.object.inj new]
          exact .inr List.mem_cons_self
      · exact .inl ⟨switch, kept, same, named⟩
    · exact .inl ⟨other, kept, before, named⟩
  · intro index other registered
    rcases registered_put there registered with ⟨_, _, same⟩ | before
    · exact .inl ⟨switch, same⟩
    · exact .inl ⟨other, before⟩

theorem advances_createSwitch {attrs : List Attribute} {index : UInt8}
    {indexes : SwitchIndexPool} {switch : Switch} {rest : IdAllocator}
    (taken : chassis.indexes.allocate = .ok (index, indexes))
    (done : (chassis.bootstrap index attrs).run = (.ok switch, rest)) :
    chassis.Advances
      { chassis with ids := rest, indexes, switches := chassis.switches.insert index switch }
      (chassis.bootstrap index attrs).issued := by
  obtain ⟨own, more⟩ := SwitchIndexPool.allocate_eq_ok taken
  have isBuilt := Bootstrap.run_eq_ok done
  obtain ⟨later, distinct, issued⟩ := Bootstrap.issued_spec own done
  refine ⟨later, by rw [more]; exact Nat.le_succ _, distinct, ?_, ?_, ?_, ?_⟩
  · intro id member
    exact (issued id member).1
  · intro id member
    unfold Spent
    rw [more]
    exact (issued id member).2
  · rintro id ⟨other, kept, registered, named⟩
    dsimp only at registered
    rw [OrderedMap.get?_insert] at registered
    split at registered
    · cases registered
      obtain ⟨entry, listed, same, _⟩ := isBuilt.object?_iff.mp named
      rw [ObjectKey.object.inj same]
      exact .inr (Bootstrap.mem_issued_of_mem_objects isBuilt.fits listed)
    · exact .inl ⟨other, kept, registered, named⟩
  · intro place other registered
    dsimp only at registered
    rw [OrderedMap.get?_insert] at registered
    split at registered
    · next same =>
        rw [same, own, more]
        exact .inr ⟨Nat.le_refl _, Nat.lt_succ_self _⟩
    · exact .inl ⟨other, registered⟩

/-- Every move hands out new ids and gives names to no others. -/
theorem advances_of_move {now : UInt64} {command : Command}
    (move : Move now command chassis next ids) : chassis.Advances next ids := by
  cases move with
  | edit found edit => exact advances_edit found edit
  | age => exact advances_age now
  | setTestMode _ =>
      exact advances_nil (Nat.le_refl _) rfl fun registered =>
        ⟨_, registered, fun stored => ⟨_, stored⟩⟩
  | removeSwitch _ =>
      refine advances_nil (Nat.le_refl _) rfl ?_
      intro index switch registered
      rw [OrderedMap.get?_erase] at registered
      split at registered
      · cases registered
      · exact ⟨switch, registered, fun stored => ⟨_, stored⟩⟩
  | createObject _ counted found equips drawn inserted =>
      exact advances_createObject counted found equips drawn inserted
  | wasteId counted drawn =>
      obtain ⟨isDrawn, _⟩ := IdAllocator.isDrawn_of_allocate counted drawn
      refine advances_nil ?_ rfl fun registered => ⟨_, registered, fun stored => ⟨_, stored⟩⟩
      exact Nat.le_trans (Nat.le_of_lt isDrawn.after) isDrawn.upTo
  | createSwitch taken done => exact advances_createSwitch taken done
  | abandonSwitch taken done =>
      obtain ⟨own, more⟩ := SwitchIndexPool.allocate_eq_ok taken
      obtain ⟨later, distinct, issued⟩ := Bootstrap.issued_spec own done
      refine ⟨later, by rw [more]; exact Nat.le_succ _, distinct, ?_, ?_, .inl, ?_⟩
      · intro id member
        exact (issued id member).1
      · intro id member
        unfold Spent
        rw [more]
        exact (issued id member).2
      · intro index switch registered
        exact .inl ⟨switch, registered⟩

end Chassis

end SwitchAbstraction
