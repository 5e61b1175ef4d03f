import SwitchAbstraction.Proofs.Reads
import SwitchAbstraction.Proofs.TypedStore

/-!
# What a read finds

The value of an attribute of an object is the one that is derived for it now or,
if none is, the one that is stored.  A read by the key of the object finds these
values, and nothing else of the chassis makes a difference to it.
-/

namespace SwitchAbstraction

open Results

/-- Of values that are inserted for different attributes each is bound, the others stay. -/
theorem Attributes.get?_insertAll_of_nodup {values : List (AttrId × AttrValue)}
    (distinct : (values.map Prod.fst).Nodup) (attrs : Attributes) (id : AttrId) :
    OrderedMap.get? (values.foldl (fun attrs entry => attrs.insert entry.1 entry.2) attrs) id =
      (OrderedMap.lookup id values).or (attrs.get? id) := by
  induction values generalizing attrs with
  | nil => rfl
  | cons entry rest ih =>
      obtain ⟨first, value⟩ := entry
      obtain ⟨fresh, others⟩ := List.nodup_cons.mp distinct
      rw [List.foldl_cons, ih others, OrderedMap.get?_insert, OrderedMap.lookup_cons]
      by_cases same : id = first
      · subst same
        rw [if_pos rfl, if_pos rfl, OrderedMap.lookup_eq_none_iff.mpr fresh]
        rfl
      · rw [if_neg same, if_neg same]

/-- A list that was taken over is the stored one. -/
theorem SizedList.fill_eq_filled {α : Type} {offered stored list : SizedList α}
    (normal : stored = .ofItems stored.items) (filled : offered.fill stored = (list, .filled)) :
    list = stored := by
  dsimp only [fill] at filled
  split at filled
  · cases filled
  · cases filled
    exact normal.symm

/-- A slot that took a value over holds just that. -/
theorem AttrValue.fill?_eq_filled {slot stored value : AttrValue}
    (normal : stored.normalized = stored) (filled : slot.fill? stored = some (value, .filled)) :
    value = stored := by
  cases stored with
  | oidList list | u32List list | s32List list =>
      have ofItems : list = .ofItems list.items := by
        injection normal with ofItems
        exact ofItems.symm
      cases slot with
      | oidList offered | u32List offered | s32List offered =>
          first
          | cases filled
          | obtain ⟨rfl, taken⟩ := Prod.mk.inj (Option.some.inj filled)
            exact congrArg _ (SizedList.fill_eq_filled ofItems (Prod.ext rfl taken))
      | _ => cases filled
  | _ => cases slot <;> cases filled <;> rfl

namespace Switch

variable {switch : Switch} {key : ObjectKey} {attrs : Attributes} {id : AttrId}
  {value : AttrValue}

/-- A read gives its slots back, for the same attributes in the same order. -/
theorem ids_fillSlots (slots : List Attribute) :
    (fillSlots key attrs slots).2.map Attribute.id = slots.map Attribute.id := by
  induction slots with
  | nil => rfl
  | cons slot rest ih =>
      unfold fillSlots
      cases fillSlot key attrs slot with
      | error fault => rfl
      | ok taken => exact congrArg (slot.id :: ·) ih

/-- A slot that lacks no room holds what the object has. -/
theorem get?_of_fillSlot {slot : Attribute}
    (normal : ∀ {id value}, attrs.get? id = some value → value.normalized = value)
    (taken : fillSlot key attrs slot = .ok (value, .filled)) : attrs.get? slot.id = some value := by
  unfold fillSlot Attribute.fill at taken
  split at taken
  · cases taken
  · next stored found =>
      split at taken
      · next filled =>
          cases taken
          rw [AttrValue.fill?_eq_filled (normal found) filled]
          exact found
      · cases taken

/-- A read that lacks no room leaves in its slots what the object has. -/
theorem get?_of_fillSlots {slots filled : List Attribute}
    (normal : ∀ {id value}, attrs.get? id = some value → value.normalized = value)
    (done : fillSlots key attrs slots = (.ok [], filled)) :
    ∀ attr ∈ filled, attrs.get? attr.id = some attr.value := by
  induction slots generalizing filled with
  | nil =>
      cases done
      exact fun _ => nofun
  | cons slot rest ih =>
      unfold fillSlots at done
      split at done
      · cases done
      · next value transfer taken =>
          cases others : fillSlots key attrs rest with
          | mk needs filledRest =>
              rw [others] at done
              obtain ⟨passed, rfl⟩ := Prod.mk.inj done
              obtain ⟨_, rfl, nothing⟩ := map_eq_ok_iff.mp passed
              obtain ⟨enough, rfl⟩ := List.append_eq_nil_iff.mp nothing
              refine List.forall_mem_cons.mpr ⟨?_, ih others⟩
              cases transfer with
              | filled =>
                  have own := get?_of_fillSlot normal taken
                  exact own
              | overflow required => cases enough

theorem readResult_eq_done {needs : Except Fault (List (AttrId × UInt32))}
    (done : readResult needs = .ok .done) : needs = .ok [] := by
  unfold readResult at done
  split at done
  · cases done
  · rfl
  · cases done

/-- The value of an attribute of an object: the one derived for it now or else the one stored. -/
def value? (switch : Switch) (key : ObjectKey) (id : AttrId) : Option AttrValue :=
  (OrderedMap.lookup id (switch.derived key)).or
    ((switch.object? key).bind fun attrs => attrs.get? id)

theorem nodup_derived : ((switch.derived key).map Prod.fst).Nodup := by
  unfold derived
  split
  · exact List.nodup_nil
  · split
    · exact List.nodup_singleton _
    · exact List.nodup_singleton _
    · exact List.nodup_singleton _
    · have both : [AttrId.switchPortNumber, .switchPortList].Nodup := by decide
      exact both
    · exact List.nodup_nil

/-- An object that is brought up to date has the values that there are now. -/
theorem exists_refreshed (stored : switch.object? key = some attrs) :
    ∃ fresh, (switch.refresh key).object? key = some fresh ∧
      ∀ id, fresh.get? id = switch.value? key id := by
  refine ⟨(switch.derived key).foldl (fun attrs entry => attrs.insert entry.1 entry.2) attrs,
    ?_, fun id => ?_⟩
  · rw [object?_refresh, if_pos rfl, stored]
    rfl
  · unfold value?
    rw [Attributes.get?_insertAll_of_nodup nodup_derived, stored]
    rfl

/-- An attribute that is not a derived one has the value that is stored. -/
theorem value?_of_stored (kept : id.isDerived = false) :
    switch.value? key id = (switch.object? key).bind fun attrs => attrs.get? id := by
  have unbound : OrderedMap.lookup id (switch.derived key) = none := by
    rw [OrderedMap.lookup_eq_none_iff]
    intro member
    obtain ⟨entry, derived, rfl⟩ := List.mem_map.mp member
    exact Bool.false_ne_true (kept.symm.trans (isDerived_of_mem_derived derived))
  unfold value?
  rw [unbound]
  rfl

theorem IsTyped.isStored_of_value? (typed : switch.IsTyped)
    (found : switch.value? key id = some value) : Attribute.IsStored key.type ⟨id, value⟩ := by
  rcases Option.or_eq_some_iff.mp found with derived | ⟨_, kept⟩
  · exact isStored_of_mem_derived (OrderedMap.mem_of_lookup derived)
  · obtain ⟨attrs, stored, bound⟩ := Option.bind_eq_some_iff.mp kept
    exact (typed key attrs stored).2 id value bound

end Switch

/-- The call that reads attributes of the object with a key, by its id if it has one. -/
def Call.reading : ObjectKey → List Attribute → Call
  | .object id, slots => .get (ObjectKey.object id).type id slots
  | key, slots => .getEntry key slots

theorem Call.isRead_reading (key : ObjectKey) (slots : List Attribute) :
    (Command.call (.reading key slots)).isRead = true := by
  cases key <;> rfl

/-- The id of an object names it among the objects of its type. -/
theorem ObjectKey.ofTypedId_of_isWellFormed {id : ObjectId}
    (wellFormed : (object id).IsWellFormed) :
    ofTypedId (object id).type id = .ok (.object id) := by
  obtain ⟨isType, addressed⟩ := wellFormed.type_eq rfl
  have real : (object id).type ≠ .null := by
    intro null
    rw [null] at addressed
    cases addressed
  exact bind_eq_ok_iff.mpr ⟨(), (ObjectId.expectType_eq_ok_iff real).mpr isType,
    Chassis.ofId_of_typed isType addressed⟩

theorem ObjectKey.ofTypedId_of_typed {type : ObjectType} {id : ObjectId}
    (typed : id.type? = some type) (addressed : type.isIdAddressed = true) :
    ofTypedId type id = .ok (.object id) := by
  have named := ofTypedId_of_isWellFormed ⟨type, typed, addressed⟩
  rwa [type_object typed] at named

namespace Chassis

variable {chassis : Chassis} {key : ObjectKey} {switch : Switch} {now : UInt64}
  {slots : List Attribute}

/-- A key leads to a switch with well-typed objects, one of which has the key. -/
structure Finds (chassis : Chassis) (key : ObjectKey) (switch : Switch) : Prop where
  found : chassis.switches.find key.switchId = .ok switch
  stored : ∃ attrs, switch.object? key = some attrs
  typed : switch.IsTyped

/-- What a run of commands has stored is found. -/
theorem finds_of_stored (settings : Settings) (history : List (UInt64 × Command)) {index : UInt8}
    {attrs : Attributes}
    (registered : ((start settings).run history).switches.get? index = some switch)
    (stored : switch.object? key = some attrs) :
    ((start settings).run history).Finds key switch where
  found := find_of_stored settings history registered stored
  stored := ⟨attrs, stored⟩
  typed := Switch.isKept_isTyped.run settings (fun _ _ => trivial) registered

theorem Finds.answer_reading (finds : chassis.Finds key switch) :
    (chassis.perform now (.reading key slots)).answer = (chassis.getOn key slots).1 := by
  obtain ⟨found, ⟨attrs, stored⟩, typed⟩ := finds
  cases key with
  | object id =>
      change (chassis.get _ id slots).1 = _
      unfold get
      rw [ObjectKey.ofTypedId_of_isWellFormed (typed _ attrs stored).1]
  | fdb | route | neighbor =>
      change (chassis.getEntry _ slots).1 = _
      unfold getEntry
      rw [ObjectKey.checkEntry_of_entry rfl (Registry.find_eq_ok_iff.mp found).1]

theorem own_of_find?_eq_none
    (familiar : slots.find? (fun slot => slot.id.objectType ≠ key.type) = none) :
    ∀ slot ∈ slots, slot.id.objectType = key.type := by
  intro slot member
  simpa using List.find?_eq_none.mp familiar slot member

/-- A read of attributes of the object finds the values that there are now. -/
theorem Finds.answer_of_own (finds : chassis.Finds key switch)
    (own : ∀ slot ∈ slots, slot.id.objectType = key.type) :
    ∃ fresh : Attributes, (∀ id, fresh.get? id = switch.value? key id) ∧
      (chassis.perform now (.reading key slots)).answer = Switch.read key fresh slots := by
  obtain ⟨attrs, stored⟩ := finds.stored
  obtain ⟨fresh, there, values⟩ := Switch.exists_refreshed stored
  have familiar : slots.find? (fun slot => slot.id.objectType ≠ key.type) = none := by
    rw [List.find?_eq_none]
    intro slot member foreign
    exact of_decide_eq_true foreign (own slot member)
  have passed : chassis.checkRead key slots = .ok switch := by
    unfold checkRead
    rw [familiar]
    refine bind_eq_ok_iff.mpr ⟨switch, finds.found, bind_eq_ok_iff.mpr ⟨(), ?_, rfl⟩⟩
    exact Switch.require_eq_ok_iff.mpr (Switch.contains_iff.mpr ⟨attrs, stored⟩)
  refine ⟨fresh, values, ?_⟩
  rw [finds.answer_reading]
  unfold getOn
  rw [passed]
  dsimp only
  rw [there]
  rfl

/-- A read of an attribute that is not of the object is refused without a look at it. -/
theorem Finds.answer_of_foreign (finds : chassis.Finds key switch) {slot : Attribute}
    (foreign : slots.find? (fun slot => slot.id.objectType ≠ key.type) = some slot) :
    (chassis.perform now (.reading key slots)).answer =
      ⟨.error (.invalid (.foreignAttribute slot.id key.type)), slots⟩ := by
  rw [finds.answer_reading]
  unfold getOn checkRead
  rw [foreign]

/-- A read that succeeds gives its slots back with the values that there are now. -/
theorem Finds.holds_of_done (finds : chassis.Finds key switch)
    (done : (chassis.perform now (.reading key slots)).answer.result = .ok .done) :
    (chassis.perform now (.reading key slots)).answer.slots.map Attribute.id =
        slots.map Attribute.id ∧
      ∀ attr ∈ (chassis.perform now (.reading key slots)).answer.slots,
        switch.value? key attr.id = some attr.value := by
  cases foreign : slots.find? (fun slot => slot.id.objectType ≠ key.type) with
  | some slot =>
      rw [finds.answer_of_foreign foreign] at done
      cases done
  | none =>
      obtain ⟨fresh, values, answer⟩ :=
        @Finds.answer_of_own chassis key switch now _ finds (own_of_find?_eq_none foreign)
      rw [answer] at done ⊢
      have lacking : (Switch.fillSlots key fresh slots).1 = .ok [] := Switch.readResult_eq_done done
      have normal {id : AttrId} {value : AttrValue} (found : fresh.get? id = some value) :
          value.normalized = value := by
        rw [values] at found
        exact (finds.typed.isStored_of_value? found).normal
      refine ⟨Switch.ids_fillSlots slots, fun attr member => ?_⟩
      rw [← values]
      exact Switch.get?_of_fillSlots normal (Prod.ext lacking rfl) attr member

/-- Reads of an object answer alike wherever its attributes have the same values. -/
theorem Finds.answer_congr {other : Chassis} {next : Switch} {later : UInt64}
    (finds : chassis.Finds key switch) (findsOther : other.Finds key next)
    (same : ∀ slot ∈ slots, next.value? key slot.id = switch.value? key slot.id) :
    (other.perform later (.reading key slots)).answer =
      (chassis.perform now (.reading key slots)).answer := by
  cases foreign : slots.find? (fun slot => slot.id.objectType ≠ key.type) with
  | some slot => rw [finds.answer_of_foreign foreign, findsOther.answer_of_foreign foreign]
  | none =>
      have own := own_of_find?_eq_none foreign
      obtain ⟨fresh, values, answer⟩ := @Finds.answer_of_own chassis key switch now _ finds own
      obtain ⟨freshOther, others, answerOther⟩ :=
        @Finds.answer_of_own other key next later _ findsOther own
      rw [answer, answerOther]
      unfold Switch.read
      rw [Switch.fillSlots_congr fun slot member => ?_]
      rw [values, others, same slot member]

end Chassis

end SwitchAbstraction
