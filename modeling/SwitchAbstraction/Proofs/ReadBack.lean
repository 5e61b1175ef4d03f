import SwitchAbstraction.Proofs.Negotiation
import SwitchAbstraction.Proofs.ReadOnly

/-!
# What was written is read back

After a call that writes attributes of an object, a read of the object finds
their values, with lists counted anew.  An object that the call has made shows
nothing else but what is derived for it and what the switch assigns by itself.
All other attributes, of this object and of all others, are read as before.
-/

namespace SwitchAbstraction

open Results

/-! ## What calls write -/

namespace Call

/-- The object that a call writes, by its reply, with the attributes that it writes to it. -/
def written? : Call → Reply → Option (ObjectKey × List Attribute)
  | .create _ _ attrs, .created id => some (.object id, attrs)
  | .createEntry key attrs, _ => some (key, attrs)
  | .set _ id attr, _ => some (.object id, [attr])
  | .setEntry key attr, _ => some (key, [attr])
  | _, _ => none

/-- Whether a call makes the object that it writes. -/
def isCreation : Call → Bool
  | .create .. | .createEntry .. => true
  | _ => false

end Call

namespace AttrId

/-- The attributes besides the derived ones that a new object gets without being given them. -/
def assigned : List AttrId :=
  [.debugCounterIndex, .switchOperStatus, .switchSrcMacAddress, .switchFdbAgingTime,
    .switchDefaultVlanId, .switchCpuPort, .switchDefaultVirtualRouterId, .switchDefault1QBridgeId,
    .switchDefaultTrapGroup]

theorem isDerived_eq_false_of_writable {id : AttrId} (writable : id.isReadOnly = false) :
    id.isDerived = false := by
  cases id <;> first | rfl | cases writable

/-- Of what a new object gets by itself, only two attributes can also be given. -/
theorem not_mem_assigned {id : AttrId} (writable : id.isReadOnly = false)
    (source : id ≠ .switchSrcMacAddress) (aging : id ≠ .switchFdbAgingTime) : id ∉ assigned := by
  intro member
  simp only [assigned, List.mem_cons, List.not_mem_nil, or_false] at member
  rcases member with rfl | rfl | rfl | rfl | rfl | rfl | rfl | rfl | rfl
  all_goals first | exact source rfl | exact aging rfl | cases writable

end AttrId

/-- Attributes as they are stored after they were given, those of a new object without others. -/
structure Attributes.Carries (attrs : Attributes) (given : List Attribute) (fresh : Bool) :
    Prop where
  held : ∀ attr ∈ given, attrs.get? attr.id = some attr.value.normalized
  bare : fresh = true → ∀ {id}, id.isDerived = false → id ∉ AttrId.assigned →
    id ∉ given.map Attribute.id → attrs.get? id = none

namespace Attributes

variable {attrs : Attributes} {given : List Attribute}

theorem carries_ofList (distinct : (given.map Attribute.id).Nodup) :
    (ofList given).Carries given true where
  held _ := get?_ofList_of_mem distinct
  bare _ {id} _ _ absent := by
    rw [Option.eq_none_iff_forall_ne_some]
    intro value stored
    obtain ⟨attr, member, rfl, _⟩ := get?_ofList_eq_some stored
    exact absent (List.mem_map_of_mem member)

/-- An attribute that is assigned makes no difference to the others. -/
theorem Carries.insert (carries : attrs.Carries given true) {id : AttrId} {value : AttrValue}
    (assigned : id ∈ AttrId.assigned) (other : id ∉ given.map Attribute.id) :
    Carries (attrs.insert id value) given true where
  held attr member := by
    rw [OrderedMap.get?_insert, if_neg]
    · exact carries.held attr member
    · rintro rfl
      exact other (List.mem_map_of_mem member)
  bare _ {asked} stored unassigned absent := by
    rw [OrderedMap.get?_insert, if_neg]
    · exact carries.bare rfl stored unassigned absent
    · rintro rfl
      exact unassigned assigned

end Attributes

/-! ## A new switch -/

theorem AttrValue.eq_mac_of_kind {value : AttrValue} (kind : value.kind = .mac) :
    ∃ mac, value = .mac mac := by
  cases value with
  | mac mac => exact ⟨mac, rfl⟩
  | _ => cases kind

namespace Bootstrap

variable {boot : Bootstrap} {id : AttrId} {value : AttrValue}

theorem get?_switchAttributes (stored : id.isDerived = false) (other : id ∉ AttrId.assigned) :
    boot.switchAttributes.get? id = boot.given.get? id := by
  have apart {assigned : AttrId} (own : assigned.isDerived = true ∨ assigned ∈ AttrId.assigned) :
      id ≠ assigned := by
    rintro rfl
    rcases own with derived | member
    · rw [derived] at stored
      cases stored
    · exact other member
  unfold switchAttributes
  iterate 10 rw [OrderedMap.get?_insert, if_neg (apart (by decide))]

/-- A new switch has the attributes that it was given. -/
theorem get?_switchAttributes_of_given (fits : boot.given.AreOf .switch)
    (writable : id.isReadOnly = false) (found : boot.given.get? id = some value) :
    boot.switchAttributes.get? id = some value := by
  by_cases source : id = .switchSrcMacAddress
  · subst source
    obtain ⟨_, kind⟩ := Attribute.fits_iff.mp (fits _ value found).fits
    obtain ⟨mac, rfl⟩ := AttrValue.eq_mac_of_kind kind
    have kept : boot.sourceMac = mac := by
      unfold sourceMac Attributes.mac?
      rw [found]
      rfl
    simp [switchAttributes, OrderedMap.get?_insert, kept]
  · by_cases aging : id = .switchFdbAgingTime
    · subst aging
      simp [switchAttributes, OrderedMap.get?_insert, found]
    · have stored := AttrId.isDerived_eq_false_of_writable writable
      rw [get?_switchAttributes stored (AttrId.not_mem_assigned writable source aging), found]

end Bootstrap

/-! ## One write -/

namespace Chassis

variable {chassis next : Chassis} {key : ObjectKey} {given : List Attribute} {fresh : Bool}
  {index : UInt8} {switch changed : Switch} {now : UInt64}

/--
A write has stored what was given to an object.  Every object that was there before
stays, and keeps all attributes but those that it was given.
-/
structure HasWritten (chassis next : Chassis) (key : ObjectKey) (given : List Attribute)
    (fresh : Bool) : Prop where
  plain : ∀ attr ∈ given, attr.id.isDerived = false
  stored : ∃ index attrs, next.objectAt? index key = some attrs ∧ attrs.Carries given fresh
  kept : ∀ {index other attrs}, chassis.objectAt? index other = some attrs →
    ∃ later, next.objectAt? index other = some later ∧
      ∀ id, (other = key → id ∉ given.map Attribute.id) → later.get? id = attrs.get? id

theorem plain_of_checkAll {type : ObjectType} {seen : List AttrId}
    (passed : Attribute.checkAll type false seen given = .ok ()) :
    ∀ attr ∈ given, attr.id.isDerived = false := fun attr member =>
  AttrId.isDerived_eq_false_of_writable (Attribute.isReadOnly_of_checkAll passed attr member)

/-- With a switch registered at an index, the objects there are those of the switch. -/
theorem objectAt?_of_insert (registers : next.switches = chassis.switches.insert index changed)
    (asked : UInt8) (other : ObjectKey) :
    next.objectAt? asked other =
      if asked = index then changed.object? other else chassis.objectAt? asked other := by
  unfold objectAt?
  rw [registers, OrderedMap.get?_insert]
  split <;> rfl

theorem hasWritten_of_insert (plain : ∀ attr ∈ given, attr.id.isDerived = false)
    (registers : next.switches = chassis.switches.insert index changed) {attrs : Attributes}
    (stored : changed.object? key = some attrs) (carries : attrs.Carries given fresh)
    (kept : ∀ {other before}, chassis.objectAt? index other = some before →
      ∃ later, changed.object? other = some later ∧
        ∀ id, (other = key → id ∉ given.map Attribute.id) → later.get? id = before.get? id) :
    chassis.HasWritten next key given fresh where
  plain := plain
  stored := ⟨index, attrs, by rw [objectAt?_of_insert registers, if_pos rfl, stored], carries⟩
  kept {asked other before} there := by
    rw [objectAt?_of_insert registers]
    split
    · next same =>
        rw [same] at there
        exact kept there
    · exact ⟨before, there, fun _ _ => rfl⟩

/-- An object that is added has what it was given, and the others are not touched. -/
theorem hasWritten_of_added (plain : ∀ attr ∈ given, attr.id.isDerived = false)
    (registered : chassis.switches.get? index = some switch)
    (registers : next.switches = chassis.switches.insert index changed)
    (absent : switch.object? key = none) {attrs : Attributes}
    (added : ∀ other,
      changed.object? other = if other = key then some attrs else switch.object? other)
    (carries : attrs.Carries given fresh) : chassis.HasWritten next key given fresh := by
  refine hasWritten_of_insert plain registers ((added key).trans (if_pos rfl)) carries ?_
  intro other before there
  rw [objectAt?_of_get? registered] at there
  refine ⟨before, ?_, fun _ _ => rfl⟩
  rw [added, if_neg, there]
  rintro rfl
  rw [absent] at there
  cases there

theorem hasWritten_of_setOn {attr : Attribute} {value : Unit}
    (done : chassis.setOn false key attr now = .ok (value, next)) :
    chassis.HasWritten next key [attr] false := by
  have plain : attr.id.isDerived = false :=
    AttrId.isDerived_eq_false_of_writable (isReadOnly_of_setOn done)
  obtain ⟨_, passed, same⟩ := bind_eq_ok_iff.mp done
  cases same
  obtain ⟨_, _, switch, found, there⟩ := checkWrite_eq_ok_iff.mp passed
  obtain ⟨attrs, stored⟩ := Switch.contains_iff.mp there
  have registered := (Registry.find_eq_ok_iff.mp found).2
  have written : (switch.write key attr now).object? key =
      some (attrs.insert attr.id attr.value.normalized) := by
    rw [Switch.object?_write, if_pos rfl, stored]
    rfl
  rw [write_eq_put found]
  refine hasWritten_of_insert (List.forall_mem_singleton.mpr plain) rfl written ⟨?_, nofun⟩ ?_
  · rw [List.forall_mem_singleton]
    exact OrderedMap.get?_insert_self _ _ _
  · intro other before there
    rw [objectAt?_of_get? registered] at there
    rw [Switch.object?_write, there]
    split
    · next own =>
        refine ⟨_, rfl, fun id others => ?_⟩
        rw [OrderedMap.get?_insert, if_neg]
        rintro rfl
        exact others own (List.mem_singleton.mpr rfl)
    · exact ⟨before, rfl, fun _ _ => rfl⟩

theorem hasWritten_of_createEntry {value : Unit}
    (done : chassis.createEntry key given now = .ok (value, next)) :
    chassis.HasWritten next key given true := by
  obtain ⟨_, passed, rest⟩ := bind_eq_ok_iff.mp done
  obtain ⟨_, _, checked⟩ := bind_eq_ok_iff.mp passed
  obtain ⟨_, each, _⟩ := bind_eq_ok_iff.mp checked
  obtain ⟨switch, changed, found, added, rfl⟩ := onSwitch_eq_ok_iff.mp rest
  obtain ⟨_, inserted, _⟩ := Switch.addEntry_eq_ok added
  exact hasWritten_of_added (plain_of_checkAll each) (Registry.find_eq_ok_iff.mp found).2 rfl
    (Switch.insert_eq_ok_iff.mp inserted).1 (Switch.object?_addEntry added)
    (Attributes.carries_ofList (Attribute.checkAll_eq_ok each).2)

theorem hasWritten_of_createObject {type : ObjectType} {owner id : ObjectId}
    (passed : Attribute.checkAll type false [] given = .ok ())
    (done : chassis.createObject type owner given = (.ok id, next)) :
    chassis.HasWritten next (.object id) given true := by
  obtain ⟨_, switch, stored, equipped, changed, ids, found, equips, _, inserted, rfl⟩ :=
    createObject_eq_ok done
  have carries : stored.Carries given true := by
    have bare := Attributes.carries_ofList (Attribute.checkAll_eq_ok passed).2
    rcases Switch.equip_eq_ok equips with ⟨_, rfl, _⟩ | ⟨_, pooled, _, _, rfl, _⟩
    · exact bare
    · -- The index of a debug counter cannot be given, so it stands in for no value that was.
      refine bare.insert (by decide) fun listed => ?_
      obtain ⟨attr, member, same⟩ := List.mem_map.mp listed
      have free := Attribute.isReadOnly_of_checkAll passed attr member
      rw [same] at free
      cases free
  refine hasWritten_of_added (plain_of_checkAll passed) (Registry.find_eq_ok_iff.mp found).2 rfl
    ?_ (Switch.object?_insert_of_equip equips inserted) carries
  rw [← Switch.object?_equip equips]
  exact (Switch.insert_eq_ok_iff.mp inserted).1

theorem Ledger.hasWritten_of_createSwitch {log : List ObjectId} (ledger : Ledger log chassis)
    {id : ObjectId} (passed : Attribute.checkAll .switch false [] given = .ok ())
    (done : chassis.createSwitch given = (.ok id, next)) :
    chassis.HasWritten next (.object id) given true := by
  obtain ⟨index, indexes, switch, ids, taken, built, rfl, rfl⟩ := createSwitch_eq_ok done
  have bare := Attributes.carries_ofList (Attribute.checkAll_eq_ok passed).2
  have stored : switch.object? (.object (.ofSwitchIndex index)) =
      some (chassis.bootstrap index given).switchAttributes :=
    (Bootstrap.run_eq_ok built).object?_iff.mpr ⟨(_, _), List.mem_cons_self, rfl, rfl⟩
  refine hasWritten_of_insert (plain_of_checkAll passed) rfl stored ⟨?_, ?_⟩ ?_
  · intro attr member
    exact Bootstrap.get?_switchAttributes_of_given (Attributes.areOf_of_checkAll passed)
      (Attribute.isReadOnly_of_checkAll passed attr member) (bare.held attr member)
  · intro _ asked plain unassigned absent
    rw [Bootstrap.get?_switchAttributes plain unassigned]
    exact bare.bare rfl plain unassigned absent
  · intro other before there
    obtain ⟨old, registered, _⟩ := objectAt?_eq_some_iff.mp there
    rw [ledger.get?_of_allocate taken] at registered
    cases registered

/-- A call that succeeds has written what it says. -/
theorem Ledger.hasWritten_of_perform {log : List ObjectId} (ledger : Ledger log chassis)
    {call : Call} {reply : Reply}
    (succeeded : (chassis.perform now call).answer.result = .ok reply)
    (named : call.written? reply = some (key, given)) :
    chassis.HasWritten (chassis.perform now call).state key given call.isCreation := by
  cases call with
  | create type owner attrs =>
      cases reply with
      | created id =>
          cases named
          obtain ⟨passed, ofSwitch, ofOther⟩ := create_eq_ok (created_of_perform succeeded)
          obtain ⟨_, _, each⟩ := bind_eq_ok_iff.mp passed
          by_cases isSwitch : type = .switch
          · rw [isSwitch] at each
            exact ledger.hasWritten_of_createSwitch each (ofSwitch isSwitch)
          · exact hasWritten_of_createObject each (ofOther isSwitch)
      | _ => cases named
  | set type id attr =>
      cases named
      obtain ⟨_, done⟩ := exists_of_settled succeeded
      obtain ⟨key, typed, rest⟩ := bind_eq_ok_iff.mp done
      obtain ⟨rfl, _, _⟩ := ObjectKey.ofTypedId_eq_ok typed
      exact hasWritten_of_setOn rest
  | createEntry key attrs =>
      cases named
      obtain ⟨_, done⟩ := exists_of_settled succeeded
      exact hasWritten_of_createEntry done
  | setEntry key attr =>
      cases named
      obtain ⟨_, done⟩ := exists_of_settled succeeded
      obtain ⟨_, _, rest⟩ := bind_eq_ok_iff.mp done
      exact hasWritten_of_setOn rest
  | _ => cases named

end Chassis

/-! ## What reads find -/

namespace AttrValue

variable {value : AttrValue}

theorem isList_of_sizes? {sizes : UInt32 × Nat} (found : value.sizes? = some sizes) :
    value.kind.isList = true := by
  cases value <;> first | rfl | cases found

theorem exists_sizes? (isList : value.kind.isList = true) :
    ∃ count length, value.sizes? = some (count, length) := by
  cases value <;> first | exact ⟨_, _, rfl⟩ | cases isList

/-- Counting a list anew leaves its length alone. -/
theorem exists_sizes?_of_normalized {count : UInt32} {length : Nat}
    (found : value.normalized.sizes? = some (count, length)) :
    ∃ told, value.sizes? = some (told, length) := by
  cases value <;> first | exact ⟨_, found⟩ | cases found; exact ⟨_, rfl⟩

end AttrValue

namespace Attribute

/-- The attribute with a list counted anew, as it is stored. -/
def normalized (attr : Attribute) : Attribute :=
  ⟨attr.id, attr.value.normalized⟩

/-- A slot that an attribute can be read into: one for a list is a list with enough room. -/
structure Takes (slot attr : Attribute) : Prop where
  id_eq : slot.id = attr.id
  kind_eq : attr.value.kind.isList = true → slot.value.kind = attr.value.kind
  room : slot.value.HasRoomFor attr.value

end Attribute

namespace Switch

variable {switch : Switch} {key : ObjectKey} {slot attr : Attribute}

theorem IsTyped.canFill_of_takes (typed : switch.IsTyped)
    (value : switch.value? key attr.id = some attr.value.normalized) (takes : slot.Takes attr) :
    switch.CanFill key slot ∧ switch.HasRoom key slot := by
  obtain ⟨same, kind, room⟩ := takes
  obtain ⟨_, declared⟩ := Attribute.fits_iff.mp (typed.isStored_of_value? value).fits
  dsimp only at declared
  rw [AttrValue.kind_normalized] at declared
  have sizes {other : AttrValue} {count : UInt32} {length : Nat}
      (found : switch.value? key slot.id = some other)
      (isList : other.sizes? = some (count, length)) :
      ∃ told, attr.value.sizes? = some (told, length) := by
    rw [same, value] at found
    cases found
    exact AttrValue.exists_sizes?_of_normalized isList
  refine ⟨⟨⟨_, same ▸ value⟩, fun isList => ?_, fun found isList => ?_⟩, ?_⟩
  · rw [same, ← declared] at isList ⊢
    exact kind isList
  · obtain ⟨told, own⟩ := sizes found isList
    have list := AttrValue.isList_of_sizes? own
    rw [← kind list] at list
    obtain ⟨capacity, held, offers⟩ := AttrValue.exists_sizes? list
    exact Nat.lt_of_le_of_lt (room offers own) capacity.toNat_lt_size
  · intro other found capacity held count length offers isList
    obtain ⟨told, own⟩ := sizes found isList
    exact room offers own

/-- Attributes that have their values, one for each of others, are these as they are stored. -/
theorem eq_map_normalized {wanted filled : List Attribute}
    (values : ∀ attr ∈ wanted, switch.value? key attr.id = some attr.value.normalized)
    (ids : filled.map Attribute.id = wanted.map Attribute.id)
    (holds : ∀ attr ∈ filled, switch.value? key attr.id = some attr.value) :
    filled = wanted.map Attribute.normalized := by
  induction wanted generalizing filled with
  | nil => exact List.map_eq_nil_iff.mp ids
  | cons attr rest ih =>
      cases filled with
      | nil => cases ids
      | cons first others =>
          obtain ⟨same, later⟩ := List.cons.inj ids
          obtain ⟨value, values⟩ := List.forall_mem_cons.mp values
          obtain ⟨held, holds⟩ := List.forall_mem_cons.mp holds
          rw [same, value] at held
          have own : first = attr.normalized := by
            cases first
            cases same
            cases held
            rfl
          rw [List.map_cons, ← own, ← ih values later holds]

end Switch

namespace Chassis

variable {chassis : Chassis} {key : ObjectKey} {switch : Switch} {now : UInt64}

theorem Finds.answer_of_takes (finds : chassis.Finds key switch) {slots wanted : List Attribute}
    (values : ∀ attr ∈ wanted, switch.value? key attr.id = some attr.value.normalized)
    (takes : List.Forall₂ Attribute.Takes slots wanted) :
    (chassis.perform now (.reading key slots)).answer =
      ⟨.ok .done, wanted.map Attribute.normalized⟩ := by
  have can : ∀ slot ∈ slots, switch.CanFill key slot ∧ switch.HasRoom key slot := by
    intro slot member
    obtain ⟨attr, listed, own⟩ := Attribute.exists_of_forall₂ takes.flip slot member
    exact finds.typed.canFill_of_takes (values attr listed) own
  obtain ⟨_, success, _⟩ := @Finds.answer_of_canFill _ _ _ now _ finds
    fun slot member => (can slot member).1
  have done := success fun slot member => (can slot member).2
  obtain ⟨ids, holds⟩ := finds.holds_of_done done
  have same := Attribute.ids_of_forall₂ (fun own => own.id_eq.symm) takes
  have filled := Switch.eq_map_normalized values (ids.trans same.symm) holds
  rw [← filled, ← done]

theorem Finds.answer_of_unset (finds : chassis.Finds key switch) {slot : Attribute}
    (own : slot.id.objectType = key.type) (unset : switch.value? key slot.id = none) :
    (chassis.perform now (.reading key [slot])).answer =
      ⟨.error (.notImplemented (.attribute slot.id key)), [slot]⟩ := by
  obtain ⟨fresh, values, answer⟩ :=
    @Finds.answer_of_own _ key switch now [slot] finds (List.forall_mem_singleton.mpr own)
  have none : fresh.get? slot.id = none := (values slot.id).trans unset
  rw [answer]
  unfold Switch.read Switch.fillSlots Switch.fillSlot
  rw [none]
  rfl

variable (settings : Settings) (history : List (UInt64 × Command))

/-- An object that a run has stored is found, and what is stored is what it shows. -/
theorem finds_of_objectAt? {index : UInt8} {attrs : Attributes}
    (stored : ((start settings).run history).objectAt? index key = some attrs) :
    ∃ switch, ((start settings).run history).Finds key switch ∧
      ∀ id, id.isDerived = false → switch.value? key id = attrs.get? id := by
  obtain ⟨switch, registered, there⟩ := objectAt?_eq_some_iff.mp stored
  refine ⟨switch, finds_of_stored settings history registered there, fun id plain => ?_⟩
  rw [Switch.value?_of_stored plain, there]
  rfl

/--
After a call that writes attributes of an object, reads find the values that were
given, with lists counted anew, if they offer room.  If the call has made the
object, other attributes that are neither derived nor assigned are not there.
And reads of attributes that are not derived answer as before, for every object
that was there before, but for what was given to it.
-/
theorem reads_find_last_write {now : UInt64} {call : Call} {outcome : Outcome Chassis Answer}
    {reply : Reply} {given : List Attribute}
    (made : ((start settings).run history).perform now call = outcome)
    (succeeded : outcome.answer.result = .ok reply)
    (named : call.written? reply = some (key, given)) :
    (∀ later wanted slots, (∀ attr ∈ wanted, attr ∈ given) →
      List.Forall₂ Attribute.Takes slots wanted →
      (outcome.state.perform later (.reading key slots)).answer =
        ⟨.ok .done, wanted.map Attribute.normalized⟩) ∧
    (call.isCreation = true → ∀ later slot, slot.id.objectType = key.type →
      slot.id.isDerived = false → slot.id ∉ AttrId.assigned →
      slot.id ∉ given.map Attribute.id →
      (outcome.state.perform later (.reading key [slot])).answer =
        ⟨.error (.notImplemented (.attribute slot.id key)), [slot]⟩) ∧
    ∀ {index other attrs}, ((start settings).run history).objectAt? index other = some attrs →
      ∀ earlier later slots, (∀ slot ∈ slots, slot.id.isDerived = false ∧
        (other = key → slot.id ∉ given.map Attribute.id)) →
      (outcome.state.perform later (.reading other slots)).answer =
        (((start settings).run history).perform earlier (.reading other slots)).answer := by
  subst made
  obtain ⟨plain, ⟨index, attrs, stored, carries⟩, kept⟩ :=
    (ledger_run settings history).hasWritten_of_perform succeeded named
  have after : (((start settings).run history).perform now call).state =
      (start settings).run (history ++ [(now, .call call)]) := by
    rw [run_concat]
    rfl
  rw [after] at stored ⊢
  obtain ⟨switch, finds, values⟩ := finds_of_objectAt? settings _ stored
  refine ⟨?_, ?_, ?_⟩
  · intro later wanted slots among takes
    refine finds.answer_of_takes (fun attr member => ?_) takes
    rw [values _ (plain attr (among attr member))]
    exact carries.held attr (among attr member)
  · intro creates later slot own underived unassigned absent
    refine finds.answer_of_unset own ?_
    rw [values _ underived]
    exact carries.bare creates underived unassigned absent
  · intro index other before there earlier later slots others
    obtain ⟨left, stays, same⟩ := kept there
    rw [after] at stays
    obtain ⟨old, findsOld, oldValues⟩ := finds_of_objectAt? settings history there
    obtain ⟨new, findsNew, newValues⟩ := finds_of_objectAt? settings _ stays
    refine findsOld.answer_congr findsNew fun slot member => ?_
    obtain ⟨underived, apart⟩ := others slot member
    rw [oldValues _ underived, newValues _ underived]
    exact same _ apart

/-- A list of two lanes whose count says nine. -/
def miscounted : Attribute :=
  ⟨.portHwLaneList, .u32List ⟨9, [1, 2]⟩⟩

/-- The first port that is created on the first switch after it came up. -/
def newPort : ObjectId :=
  .compose 0 .port 9

/-- Of a new port the lanes are read as two and its frame size is not there. -/
theorem new_port_reads_back :
    ∃ outcome, ((start .singlePort).run oneSwitch).perform 1
        (.create .port (.ofSwitchIndex 0) [miscounted]) = outcome ∧
      outcome.answer.result = .ok (.created newPort) ∧
      (outcome.state.perform 2 (.reading (.object newPort) [.request .portHwLaneList 2])).answer =
        ⟨.ok .done, [⟨.portHwLaneList, .u32List (.ofItems [1, 2])⟩]⟩ ∧
      (outcome.state.perform 2 (.reading (.object newPort) [.request .portMtu 0])).answer =
        ⟨.error (.notImplemented (.attribute .portMtu (.object newPort))),
          [.request .portMtu 0]⟩ ∧
      (outcome.state.perform 2 (.reading firstVlan [.request .vlanVlanId 0])).answer =
        (((start .singlePort).run oneSwitch).perform 1
          (.reading firstVlan [.request .vlanVlanId 0])).answer := by
  obtain ⟨outcome, made⟩ : ∃ outcome, ((start .singlePort).run oneSwitch).perform 1
      (.create .port (.ofSwitchIndex 0) [miscounted]) = outcome := ⟨_, rfl⟩
  have succeeded : outcome.answer.result = .ok (.created newPort) := by
    rw [← made]
    decide +kernel
  have there : (((start .singlePort).run oneSwitch).objectAt? 0 firstVlan).isSome = true := by
    decide +kernel
  obtain ⟨attrs, stored⟩ := Option.isSome_iff_exists.mp there
  obtain ⟨values, others, before⟩ :=
    reads_find_last_write .singlePort oneSwitch made succeeded rfl
  have room : Attribute.Takes (.request .portHwLaneList 2) miscounted := by
    refine ⟨rfl, fun _ => rfl, ?_⟩
    intro capacity held count length offers sizes
    cases offers
    cases sizes
    decide
  refine ⟨outcome, made, succeeded, ?_, ?_, ?_⟩
  · exact values 2 [miscounted] _ (fun _ member => member) (.cons room .nil)
  · exact others rfl 2 (.request .portMtu 0) (by decide) rfl (by decide) (by decide)
  · exact before stored 1 2 _ (List.forall_mem_singleton.mpr ⟨rfl, fun same => by cases same⟩)

end Chassis

end SwitchAbstraction
