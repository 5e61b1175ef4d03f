import SwitchAbstraction.Proofs.LearnTimes
import SwitchAbstraction.Proofs.Negotiation
import SwitchAbstraction.Proofs.Statistics

/-!
# Removals undo creations

A new object takes a place among the objects, perhaps an index for debug
counters and perhaps a record among the learned entries; a new switch takes a
place in the registry.  All of it was free before, so the removal gives back
what was taken, and nothing is left that could be removed a second time.
-/

namespace SwitchAbstraction

open Results

namespace Switch

variable {switch next equipped : Switch} {key : ObjectKey} {attrs stored : Attributes}
  {now : UInt64}

/-- Switches that look alike in all their parts are equal. -/
theorem eq_of_parts (ids : next.id = switch.id)
    (objects : ∀ key, next.object? key = switch.object? key)
    (counters : ∀ key, next.counters.get? key = switch.counters.get? key)
    (learned : ∀ entry, next.learned.get? entry = switch.learned.get? entry)
    (pools : next.debugCounters = switch.debugCounters) : next = switch := by
  cases next
  cases switch
  cases ids
  cases pools
  cases OrderedMap.ext_get? objects
  cases OrderedMap.ext_get? counters
  cases OrderedMap.ext_get? learned
  rfl

/-- Nothing of an object is on a switch: no attributes, no counts and no record of it. -/
structure Lacks (switch : Switch) (key : ObjectKey) : Prop where
  absent : switch.object? key = none
  uncounted : switch.counters.get? key = none
  unknown : ∀ {entry}, key = .fdb entry → switch.learned.get? entry = none

/-- Where an object is absent, nothing of it is left behind. -/
theorem lacks_of_absent (counted : switch.CountsStored) (mirrored : switch.Mirrored)
    (absent : switch.object? key = none) : switch.Lacks key where
  absent := absent
  uncounted := by
    cases kept : switch.counters.get? key with
    | none => rfl
    | some counts =>
        have there := counted key counts kept
        rw [contains_eq_false_iff.mpr absent] at there
        cases there
  unknown {entry} own := by
    subst own
    have record := (mirrored entry).record
    rw [absent] at record
    exact Option.map_eq_none_iff.mp record

/-- A switch has come to hold one more object, with all that the object takes. -/
structure Gains (switch : Switch) (key : ObjectKey) (attrs : Attributes) (next : Switch) :
    Prop where
  id_eq : next.id = switch.id
  objects : ∀ other,
    next.object? other = if other = key then some attrs else switch.object? other
  counters_eq : next.counters = switch.counters
  learned : ∀ {entry}, key ≠ .fdb entry → next.learned.get? entry = switch.learned.get? entry
  pool : (next.unequip key.type attrs).debugCounters = switch.debugCounters

theorem gains_of_equip {given : Attributes} {id : ObjectId} {type : ObjectType}
    (typed : id.type? = some type) (equips : switch.equip type given = .ok (stored, equipped))
    (inserted : equipped.insert (.object id) stored = .ok next) :
    switch.Gains (.object id) stored next := by
  obtain ⟨_, learned, sameId⟩ := equip_objects equips
  have counters : equipped.counters = switch.counters := by
    rw [← unequip_of_equip equips, unequip_counters]
  refine ⟨(id_insert inserted).trans sameId, object?_insert_of_equip equips inserted,
    (counters_insert inserted).trans counters, fun _ => ?_, ?_⟩
  · rw [learned_insert inserted, learned]
  · -- What is given back depends on the pool alone, which the insertion has not touched.
    rw [ObjectKey.type_object typed, ← unequip_of_equip equips]
    obtain ⟨_, rfl⟩ := insert_eq_ok_iff.mp inserted
    unfold unequip
    split
    · split <;> rfl
    · rfl

theorem gains_of_addEntry (entry : key.id? = none)
    (added : switch.addEntry key attrs now = .ok ((), next)) : switch.Gains key attrs next where
  id_eq := id_addEntry added
  objects := object?_addEntry added
  counters_eq := counters_addEntry added
  learned apart := learned_addEntry_of_ne apart added
  pool := by
    unfold unequip
    rw [if_neg (type_ne_of_entry entry), debugCounters_addEntry added]

/-- What a switch has gained, a removal takes from it again. -/
theorem Gains.removeObject (gains : switch.Gains key attrs next) (lacks : switch.Lacks key) :
    next.removeObject key = .ok ((), switch) := by
  have found : next.object? key = some attrs := (gains.objects key).trans (if_pos rfl)
  obtain ⟨restored, removed⟩ : ∃ restored, next.removeObject key = .ok ((), restored) := by
    unfold Switch.removeObject
    rw [remove?_eq_some_iff.mpr ⟨found, rfl⟩]
    exact ⟨_, rfl⟩
  suffices restored = switch by rw [removed, this]
  refine eq_of_parts ((id_removeObject removed).trans gains.id_eq) ?_ ?_ ?_ ?_
  · intro other
    rw [object?_removeObject removed, gains.objects]
    split
    · next own => rw [own, lacks.absent]
    · rfl
  · intro other
    rw [counters_removeObject removed, gains.counters_eq]
    split
    · next own => rw [own, lacks.uncounted]
    · rfl
  · intro entry
    rw [learned_removeObject removed]
    split
    · next own => rw [lacks.unknown own]
    · next apart => exact gains.learned apart
  · obtain ⟨held, there, pool⟩ := debugCounters_removeObject removed
    rw [found] at there
    cases there
    rw [pool, gains.pool]

theorem removeObject_of_absent (absent : switch.object? key = none) :
    switch.removeObject key = .error (.notFound (.ofKey key)) := by
  unfold removeObject remove?
  rw [absent]
  rfl

end Switch

namespace Chassis

variable {settings : Settings} {history : List (UInt64 × Command)} {chassis next : Chassis}
  {switch changed : Switch} {key : ObjectKey} {owner : ObjectId}

/-- A call brings the switches of an earlier chassis back, and then finds nothing to remove. -/
def IsUndoneBy (earlier later : Chassis) (call : Call) : Prop :=
  ∀ now, ∃ restored, later.perform now call = ⟨⟨.ok .done, []⟩, restored, []⟩ ∧
    restored.switches = earlier.switches ∧
    ∀ again, ∃ fault, restored.perform again call = ⟨⟨.error fault, []⟩, restored, []⟩ ∧
      fault.status = .itemNotFound

/-- A removal succeeds where the object was gained, and a second one finds it gone. -/
theorem isUndoneBy_of_removeObject {call : Call}
    (registered : chassis.switches.get? owner.switchIndex = some switch)
    (typed : owner.type? = some .switch)
    (registers : next.switches = chassis.switches.insert owner.switchIndex changed)
    (removed : changed.removeObject key = .ok ((), switch))
    (absent : switch.object? key = none)
    (attempt : ∀ chassis : Chassis, ∀ now, chassis.perform now call =
      chassis.settled (chassis.onSwitch owner fun switch => switch.removeObject key)
        (answerOf done)) :
    chassis.IsUndoneBy next call := by
  have first : next.onSwitch owner (fun switch => switch.removeObject key) =
      .ok ((), next.put owner switch) := by
    refine onSwitch_eq_ok_iff.mpr ⟨changed, switch, ?_, removed, rfl⟩
    rw [registers]
    exact Registry.find_eq_ok_iff.mpr ⟨typed, OrderedMap.get?_insert_self _ _ _⟩
  have second : (next.put owner switch).onSwitch owner (fun switch => switch.removeObject key) =
      .error (.notFound (.ofKey key)) := by
    unfold onSwitch
    rw [find_put typed]
    dsimp only
    rw [Switch.removeObject_of_absent absent]
    rfl
  have switches : (next.put owner switch).switches = chassis.switches := by
    apply OrderedMap.ext_get?
    intro index
    rw [get?_put]
    split
    · next own => rw [own, registered]
    · next other => rw [registers, OrderedMap.get?_insert, if_neg other]
  intro now
  refine ⟨next.put owner switch, ?_, switches, fun again => ⟨.notFound (.ofKey key), ?_, rfl⟩⟩
  · rw [attempt, first]
    rfl
  · rw [attempt, second]
    rfl

/-! ## Removals by id and by key -/

theorem remove_eq_onSwitch {type : ObjectType} {id : ObjectId} (typed : id.type? = some type)
    (counted : type.isCounted = true) (chassis : Chassis) :
    chassis.remove type id =
      chassis.onSwitch id.switchId fun switch => switch.removeObject (.object id) := by
  obtain ⟨addressed, other⟩ := ObjectType.isCounted_iff.mp counted
  unfold remove
  rw [ObjectKey.ofTypedId_of_typed typed addressed, ok_bind, if_neg other]

theorem removeEntry_eq_onSwitch (entry : key.id? = none)
    (named : key.switchId.type? = some .switch) (chassis : Chassis) :
    chassis.removeEntry key =
      chassis.onSwitch key.switchId fun switch => switch.removeObject key := by
  unfold removeEntry
  rw [ObjectKey.checkEntry_of_entry entry named, ok_bind]

/-- A removal of a switch takes it out of the registry if it is there. -/
theorem remove_switch (index : UInt8) (chassis : Chassis) :
    chassis.remove .switch (.ofSwitchIndex index) =
      (chassis.switches.take (.ofSwitchIndex index)).map fun taken =>
        ((), { chassis with switches := taken.2 }) := by
  unfold remove
  rw [ObjectKey.ofTypedId_of_typed (ObjectId.type?_ofSwitchIndex index) rfl, ok_bind, if_pos rfl]
  cases chassis.switches.take (.ofSwitchIndex index) <;> rfl

theorem take_of_get? {index : UInt8} {registry : Registry}
    (registered : registry.get? index = some switch) :
    registry.take (.ofSwitchIndex index) = .ok (switch, registry.erase index) := by
  rw [Registry.take_eq_ok_iff, Registry.find_eq_ok_iff, ObjectId.switchIndex_ofSwitchIndex]
  exact ⟨⟨ObjectId.type?_ofSwitchIndex index, registered⟩, rfl⟩

theorem take_of_absent {index : UInt8} {id : ObjectId} {registry : Registry}
    (indexed : Registry.indexOf id = .ok index) (absent : registry.get? index = none) :
    registry.take id = .error (.notFound (.ofId id)) := by
  have found : registry.find id = .error (.notFound (.ofId id)) := by
    unfold Registry.find
    rw [indexed]
    dsimp only
    rw [absent]
  unfold Registry.take
  rw [found]
  rfl

/-! ## Creations -/

/-- What a run has not stored is not there in any part of a switch. -/
theorem lacks_run {index : UInt8}
    (registered : ((start settings).run history).switches.get? index = some switch)
    (absent : switch.object? key = none) : switch.Lacks key :=
  Switch.lacks_of_absent (countsStored_run settings history registered)
    (mirrored_run settings history registered) absent

theorem Ledger.isUndoneBy_of_createSwitch {log : List ObjectId} (ledger : Ledger log chassis)
    {attrs : List Attribute} {id : ObjectId}
    (created : chassis.createSwitch attrs = (.ok id, next)) :
    id.type? = some .switch ∧ chassis.IsUndoneBy next (.remove .switch id) := by
  obtain ⟨index, indexes, switch, ids, taken, _, rfl, rfl⟩ := createSwitch_eq_ok created
  have free := ledger.get?_of_allocate taken
  have indexed : Registry.indexOf (.ofSwitchIndex index) = .ok index :=
    Registry.indexOf_eq_ok_iff.mpr
      ⟨ObjectId.type?_ofSwitchIndex index, ObjectId.switchIndex_ofSwitchIndex index⟩
  have removed : ({ chassis with ids, indexes, switches := chassis.switches.insert index switch } :
      Chassis).remove .switch (.ofSwitchIndex index) = .ok ((), { chassis with ids, indexes }) := by
    rw [remove_switch, take_of_get? (OrderedMap.get?_insert_self _ _ _),
      OrderedMap.erase_insert switch free]
    rfl
  have refused : ({ chassis with ids, indexes } : Chassis).remove .switch (.ofSwitchIndex index) =
      .error (.notFound (.ofId (.ofSwitchIndex index))) := by
    rw [remove_switch, take_of_absent indexed free]
    rfl
  refine ⟨ObjectId.type?_ofSwitchIndex index, fun now => ?_⟩
  refine ⟨{ chassis with ids, indexes }, ?_, rfl, fun again =>
    ⟨.notFound (.ofId (.ofSwitchIndex index)), ?_, rfl⟩⟩
  · exact congrArg (settled _ · (answerOf done)) removed
  · exact congrArg (settled _ · (answerOf done)) refused

theorem isUndoneBy_of_createObject {type : ObjectType} {id : ObjectId} {attrs : List Attribute}
    (other : type ≠ .switch)
    (created : ((start settings).run history).createObject type owner attrs = (.ok id, next)) :
    id.type? = some type ∧ ((start settings).run history).IsUndoneBy next (.remove type id) := by
  obtain ⟨addressed, switch, stored, equipped, changed, ids, found, equips, drawn, inserted,
    rfl⟩ := createObject_eq_ok created
  have counted := ObjectType.isCounted_iff.mpr ⟨addressed, other⟩
  obtain ⟨isDrawn, typed⟩ := IdAllocator.isDrawn_of_allocate counted drawn
  obtain ⟨_, registered⟩ := Registry.find_eq_ok_iff.mp found
  have absent := (ledger_run settings history).object?_of_drawn counted registered drawn
  have index : id.switchId.switchIndex = owner.switchIndex := by
    unfold ObjectId.switchId
    rw [ObjectId.switchIndex_ofSwitchIndex, isDrawn.index_eq]
  have named : id.switchId.type? = some .switch := ObjectId.type?_ofSwitchIndex _
  refine ⟨typed, isUndoneBy_of_removeObject (index ▸ registered) named (index ▸ rfl)
    ((Switch.gains_of_equip typed equips inserted).removeObject (lacks_run registered absent))
    absent fun chassis now => ?_⟩
  rw [← remove_eq_onSwitch typed counted]
  rfl

theorem isUndoneBy_of_createEntry {attrs : List Attribute} {now : UInt64} {value : Unit}
    (created : ((start settings).run history).createEntry key attrs now = .ok (value, next)) :
    ((start settings).run history).IsUndoneBy next (.removeEntry key) := by
  obtain ⟨_, passed, rest⟩ := bind_eq_ok_iff.mp created
  obtain ⟨_, checked, _⟩ := bind_eq_ok_iff.mp passed
  obtain ⟨entry, named⟩ := ObjectKey.checkEntry_eq_ok checked
  obtain ⟨switch, changed, found, added, rfl⟩ := onSwitch_eq_ok_iff.mp rest
  obtain ⟨_, registered⟩ := Registry.find_eq_ok_iff.mp found
  obtain ⟨_, inserted, _⟩ := Switch.addEntry_eq_ok added
  have absent := (Switch.insert_eq_ok_iff.mp inserted).1
  refine isUndoneBy_of_removeObject registered named rfl
    ((Switch.gains_of_addEntry entry added).removeObject (lacks_run registered absent)) absent
    fun chassis now => ?_
  rw [← removeEntry_eq_onSwitch entry named]
  rfl

/--
After any history, what a creation has made, be it a switch, another object with
an id or an entry, can be removed at once, the removal leaves all switches as they
were before the creation, with all their parts, and a second removal does not find
what the first one took away.
-/
theorem removal_undoes_creation (settings : Settings) (history : List (UInt64 × Command)) :
    let chassis := (start settings).run history
    (∀ {now type owner attrs id},
      (chassis.perform now (.create type owner attrs)).answer.result = .ok (.created id) →
      id.type? = some type ∧
        chassis.IsUndoneBy (chassis.perform now (.create type owner attrs)).state
          (.remove type id)) ∧
    ∀ {now key attrs},
      (chassis.perform now (.createEntry key attrs)).answer.result = .ok .done →
      chassis.IsUndoneBy (chassis.perform now (.createEntry key attrs)).state
        (.removeEntry key) := by
  intro chassis
  refine ⟨?_, ?_⟩
  · intro now type owner attrs id succeeded
    obtain ⟨_, ofSwitch, ofOther⟩ := create_eq_ok (created_of_perform succeeded)
    by_cases isSwitch : type = .switch
    · subst isSwitch
      exact (ledger_run settings history).isUndoneBy_of_createSwitch (ofSwitch rfl)
    · exact isUndoneBy_of_createObject isSwitch (ofOther isSwitch)
  · intro now key attrs succeeded
    obtain ⟨_, done⟩ := exists_of_settled succeeded
    exact isUndoneBy_of_createEntry done

/-- The first debug counter that is created on the first switch after it came up. -/
def newCounter : ObjectId :=
  .compose 0 .debugCounter 9

/-- A new debug counter takes a free index and a new dynamic entry is known; both are undone. -/
theorem new_counter_and_entry_are_undone :
    ∃ chassis withCounter withEntry, (start .singlePort).run oneSwitch = chassis ∧
      chassis.perform 1 (.create .debugCounter (.ofSwitchIndex 0) []) = withCounter ∧
      withCounter.answer.result = .ok (.created newCounter) ∧
      chassis.IsUndoneBy withCounter.state (.remove .debugCounter newCounter) ∧
      chassis.perform 1 (.createEntry (.fdb seenEntry)
        [⟨.fdbEntryType, .s32 FdbEntryType.dynamic.code⟩]) = withEntry ∧
      withEntry.answer.result = .ok .done ∧
      chassis.IsUndoneBy withEntry.state (.removeEntry (.fdb seenEntry)) := by
  have counter : (((start .singlePort).run oneSwitch).perform 1
      (.create .debugCounter (.ofSwitchIndex 0) [])).answer.result = .ok (.created newCounter) := by
    decide +kernel
  have entry : (((start .singlePort).run oneSwitch).perform 1
      (.createEntry (.fdb seenEntry)
        [⟨.fdbEntryType, .s32 FdbEntryType.dynamic.code⟩])).answer.result = .ok .done := by
    decide +kernel
  obtain ⟨ids, entries⟩ := removal_undoes_creation .singlePort oneSwitch
  exact ⟨_, _, _, rfl, rfl, counter, (ids counter).2, rfl, entry, entries entry⟩

end Chassis

end SwitchAbstraction
