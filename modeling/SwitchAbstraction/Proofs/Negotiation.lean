import SwitchAbstraction.Proofs.CurrentValues

/-!
# Lists that are offered too little room

A reader need not know how long a list is.  A read that offers too little room
for some lists fills all other slots, and leaves an empty list in each of those
that asks for just as much as is needed.  So the same read with the slots as
they were left finds room for everything, if nothing was changed in between.
-/

namespace SwitchAbstraction

open Results

/-! ## One slot -/

namespace SizedList

variable {α : Type} {offered stored : SizedList α}

theorem fill_of_room (normal : stored = .ofItems stored.items)
    (room : stored.items.length ≤ offered.count.toNat) :
    offered.fill stored = (stored, .filled) := by
  have counted : (UInt32.ofNat stored.items.length).toNat = stored.items.length :=
    UInt32.toNat_ofNat_of_lt' (Nat.lt_of_le_of_lt room offered.count.toNat_lt_size)
  have enough : ¬ offered.count < UInt32.ofNat stored.items.length := by
    rw [UInt32.lt_iff_toNat_lt, counted]
    omega
  unfold fill
  rw [if_neg enough]
  exact congrArg (·, Transfer.filled) normal.symm

theorem fill_of_lack (short : stored.items.length < UInt32.size)
    (lack : offered.count.toNat < stored.items.length) :
    offered.fill stored =
      (.withCapacity (UInt32.ofNat stored.items.length),
        .overflow (UInt32.ofNat stored.items.length)) := by
  have less : offered.count < UInt32.ofNat stored.items.length := by
    rw [UInt32.lt_iff_toNat_lt, UInt32.toNat_ofNat_of_lt' short]
    exact lack
  unfold fill
  rw [if_pos less]
  rfl

end SizedList

namespace AttrValue

variable {slot stored : AttrValue}

/-- If both are lists, the slot offers room for all items of the stored one. -/
def HasRoomFor (slot stored : AttrValue) : Prop :=
  ∀ ⦃capacity held count length⦄, slot.sizes? = some (capacity, held) →
    stored.sizes? = some (count, length) → length ≤ capacity.toNat

/-- An empty list offers the room that it was made with. -/
theorem capacity_of_slot {kind : ValueKind} {capacity offered : UInt32} {held : Nat}
    (sizes : (AttrValue.slot kind capacity).sizes? = some (offered, held)) :
    offered = capacity := by
  cases kind with
  | oidList | u32List | s32List =>
      cases sizes
      rfl
  | _ => cases sizes

/-- A slot of its kind takes a value that there is room for. -/
theorem fill?_of_room (normal : stored.normalized = stored)
    (same : stored.kind.isList = true → slot.kind = stored.kind) (room : slot.HasRoomFor stored) :
    slot.fill? stored = some (stored, .filled) := by
  cases stored with
  | oidList list | u32List list | s32List list =>
      have ofItems : list = .ofItems list.items := by
        injection normal with ofItems
        exact ofItems.symm
      cases slot with
      | oidList offered | u32List offered | s32List offered =>
          first
          | cases same rfl; done
          | dsimp only [fill?]
            rw [SizedList.fill_of_room ofItems (room rfl rfl)]
      | _ => cases same rfl
  | _ => cases slot <;> rfl

/-- A slot that lacks room for a list is left as a request for the room that it needs. -/
theorem fill?_of_lack (same : stored.kind.isList = true → slot.kind = stored.kind)
    (short : ∀ {count length}, stored.sizes? = some (count, length) → length < UInt32.size)
    (lack : ¬ slot.HasRoomFor stored) :
    ∃ count needed, stored.sizes? = some (count, UInt32.toNat needed) ∧
      stored.kind.isList = true ∧
      slot.fill? stored = some (.slot stored.kind needed, .overflow needed) := by
  unfold HasRoomFor at lack
  push Not at lack
  obtain ⟨capacity, held, count, length, offers, sizes, less⟩ := lack
  refine ⟨count, UInt32.ofNat length, ?_, ?_⟩
  · rw [UInt32.toNat_ofNat_of_lt' (short sizes)]
    exact sizes
  · cases stored with
    | oidList list | u32List list | s32List list =>
        cases slot with
        | oidList offered | u32List offered | s32List offered =>
            first
            | cases same rfl; done
            | cases sizes
              cases offers
              refine ⟨rfl, ?_⟩
              dsimp only [fill?]
              rw [SizedList.fill_of_lack (short rfl) less]
              rfl
        | _ => cases same rfl
    | _ => cases sizes

end AttrValue

/--
What a read makes of a slot for a value: it holds the value or, if it lacks
room, is left as an empty slot that asks for the length of the value.
-/
inductive Attribute.Filled (value : AttrValue) (slot : Attribute) : Attribute → Prop
  | whole (room : slot.value.HasRoomFor value) : Filled value slot ⟨slot.id, value⟩
  | asks {count needed : UInt32} (lack : ¬ slot.value.HasRoomFor value)
      (sizes : value.sizes? = some (count, needed.toNat)) :
      Filled value slot (.request slot.id needed)

namespace Attribute

variable {related : Attribute → Attribute → Prop} {slots others : List Attribute}

/-- Lists are of the same attributes if the two at each place are. -/
theorem ids_of_forall₂ (same : ∀ {slot other}, related slot other → other.id = slot.id)
    (all : List.Forall₂ related slots others) : others.map id = slots.map id := by
  induction all with
  | nil => rfl
  | cons first _ ih => rw [List.map_cons, List.map_cons, same first, ih]

theorem exists_of_forall₂ (all : List.Forall₂ related slots others) :
    ∀ other ∈ others, ∃ slot ∈ slots, related slot other := by
  induction all with
  | nil => exact fun _ => nofun
  | cons first _ ih =>
      refine List.forall_mem_cons.mpr ⟨⟨_, List.mem_cons_self, first⟩, fun other member => ?_⟩
      obtain ⟨slot, listed, own⟩ := ih other member
      exact ⟨slot, List.mem_cons_of_mem _ listed, own⟩

end Attribute

namespace Switch

variable {switch : Switch} {key : ObjectKey} {slot filled : Attribute} {slots : List Attribute}

/--
An attribute of an object has a value now, and if that is a list, the list is
shorter than counts can tell and its slot is a list of the declared kind.
-/
structure CanFill (switch : Switch) (key : ObjectKey) (slot : Attribute) : Prop where
  current : ∃ value, switch.value? key slot.id = some value
  declared : slot.id.kind.isList = true → slot.value.kind = slot.id.kind
  short : ∀ {value count length}, switch.value? key slot.id = some value →
    value.sizes? = some (count, length) → length < UInt32.size

/-- A slot has room for the value that its attribute has now. -/
def HasRoom (switch : Switch) (key : ObjectKey) (slot : Attribute) : Prop :=
  ∀ ⦃value⦄, switch.value? key slot.id = some value → slot.value.HasRoomFor value

/-- A slot is filled for the value that its attribute has now. -/
def Fills (switch : Switch) (key : ObjectKey) (slot filled : Attribute) : Prop :=
  ∃ value, switch.value? key slot.id = some value ∧ slot.Filled value filled

/-! ## One read -/

theorem Fills.id_eq (fills : switch.Fills key slot filled) : filled.id = slot.id := by
  obtain ⟨value, _, whole | asks⟩ := fills
  · rfl
  · rfl

/-- A slot as a read has left it can be filled, and has room. -/
theorem Fills.again (fills : switch.Fills key slot filled) (can : switch.CanFill key slot)
    (typed : switch.IsTyped) : switch.CanFill key filled ∧ switch.HasRoom key filled := by
  have same := fills.id_eq
  obtain ⟨value, current, made⟩ := fills
  have stored := typed.isStored_of_value? current
  obtain ⟨_, kind⟩ := Attribute.fits_iff.mp stored.fits
  have unique {other : AttrValue} (found : switch.value? key filled.id = some other) :
      other = value := by
    rw [same] at found
    exact Option.some.inj (found.symm.trans current)
  refine ⟨⟨⟨value, ?_⟩, ?_, ?_⟩, ?_⟩
  · rw [same]
    exact current
  · intro isList
    cases made with
    | whole => exact kind
    | asks => exact AttrValue.kind_slot _ _
  · intro other count length found sizes
    rw [unique found] at sizes
    exact can.short current sizes
  · intro other found capacity held count length offers sizes
    rw [unique found] at sizes
    cases made with
    | whole =>
        -- What is stored has its length as its count, so it has room for itself.
        rw [sizes] at offers
        cases offers
        rw [AttrValue.count_of_normalized stored.normal sizes,
          UInt32.toNat_ofNat_of_lt' (can.short current sizes)]
    | asks _ own =>
        rw [own] at sizes
        cases sizes
        rw [AttrValue.capacity_of_slot offers]

theorem fillSlot_of_canFill {attrs : Attributes}
    (values : ∀ id, attrs.get? id = switch.value? key id) (typed : switch.IsTyped)
    (can : switch.CanFill key slot) :
    ∃ value transfer, fillSlot key attrs slot = .ok (value, transfer) ∧
      switch.Fills key slot ⟨slot.id, value⟩ ∧
      (need slot.id transfer = [] ↔ switch.HasRoom key slot) := by
  obtain ⟨value, current⟩ := can.current
  have stored := typed.isStored_of_value? current
  obtain ⟨_, kind⟩ := Attribute.fits_iff.mp stored.fits
  have same : value.kind.isList = true → slot.value.kind = value.kind := by
    intro isList
    rw [kind] at isList ⊢
    exact can.declared isList
  unfold fillSlot Attribute.fill
  rw [values, current]
  dsimp only
  by_cases room : slot.value.HasRoomFor value
  · rw [AttrValue.fill?_of_room stored.normal same room]
    refine ⟨value, .filled, rfl, ⟨value, current, .whole room⟩, fun _ => ?_, fun _ => rfl⟩
    intro other found
    rw [Option.some.inj (found.symm.trans current)]
    exact room
  · obtain ⟨count, needed, sizes, isList, fill⟩ :=
      AttrValue.fill?_of_lack same (can.short current) room
    rw [fill]
    refine ⟨_, _, rfl, ⟨value, current, ?_⟩, nofun, fun hasRoom => absurd (hasRoom current) room⟩
    rw [kind]
    exact .asks room sizes

/-- Slots that can be filled are all filled, and what they lack is told. -/
theorem fillSlots_of_canFill {attrs : Attributes}
    (values : ∀ id, attrs.get? id = switch.value? key id) (typed : switch.IsTyped)
    (can : ∀ slot ∈ slots, switch.CanFill key slot) :
    ∃ needs filled, fillSlots key attrs slots = (.ok needs, filled) ∧
      List.Forall₂ (switch.Fills key) slots filled ∧
      (needs = [] ↔ ∀ slot ∈ slots, switch.HasRoom key slot) := by
  induction slots with
  | nil => exact ⟨[], [], rfl, .nil, fun _ _ => nofun, fun _ => rfl⟩
  | cons slot rest ih =>
      obtain ⟨first, later⟩ := List.forall_mem_cons.mp can
      obtain ⟨value, transfer, filledSlot, fills, lacks⟩ :=
        fillSlot_of_canFill values typed first
      obtain ⟨needs, filled, filledRest, others, lackOthers⟩ := ih later
      refine ⟨need slot.id transfer ++ needs, ⟨slot.id, value⟩ :: filled, ?_,
        .cons fills others, ?_⟩
      · unfold fillSlots
        rw [filledSlot, filledRest]
        rfl
      · rw [List.append_eq_nil_iff, lacks, lackOthers, List.forall_mem_cons]

end Switch

namespace Chassis

variable {chassis : Chassis} {key : ObjectKey} {switch : Switch} {now : UInt64}
  {slots : List Attribute}

/-- A read of attributes that have values fills all slots, and fails if one of them lacks room. -/
theorem Finds.answer_of_canFill (finds : chassis.Finds key switch)
    (can : ∀ slot ∈ slots, switch.CanFill key slot) :
    List.Forall₂ (switch.Fills key) slots
        (chassis.perform now (.reading key slots)).answer.slots ∧
      ((∀ slot ∈ slots, switch.HasRoom key slot) →
        (chassis.perform now (.reading key slots)).answer.result = .ok .done) ∧
      ((¬ ∀ slot ∈ slots, switch.HasRoom key slot) →
        ∃ needs, (chassis.perform now (.reading key slots)).answer.result =
          .error (.overflow needs)) := by
  have own : ∀ slot ∈ slots, slot.id.objectType = key.type := by
    intro slot member
    obtain ⟨value, current⟩ := (can slot member).current
    exact (Attribute.fits_iff.mp (finds.typed.isStored_of_value? current).fits).1
  obtain ⟨fresh, values, answer⟩ := @Finds.answer_of_own chassis key switch now slots finds own
  obtain ⟨needs, filled, done, fills, lacks⟩ :=
    Switch.fillSlots_of_canFill values finds.typed can
  rw [answer]
  unfold Switch.read
  rw [done, ← lacks]
  refine ⟨fills, ?_, ?_⟩
  · rintro rfl
    rfl
  · intro lack
    cases needs with
    | nil => exact absurd rfl lack
    | cons first rest => exact ⟨first :: rest, rfl⟩

/-- Reads leave nothing behind but derived attributes. -/
theorem primary_run_of_reads {between : List (UInt64 × Command)}
    (reads : ∀ entry ∈ between, entry.2.isRead = true) :
    (chassis.run between).primary = chassis.primary := by
  induction between generalizing chassis with
  | nil => rfl
  | cons entry rest ih =>
      obtain ⟨first, later⟩ := List.forall_mem_cons.mp reads
      obtain ⟨now, command⟩ := entry
      rw [run_cons, ih later]
      exact (react_of_isRead first).1

/-- With nothing but reads in between, a call is answered as it was answered before. -/
theorem answer_after_reads {between : List (UInt64 × Command)}
    (reads : ∀ entry ∈ between, entry.2.isRead = true) (call : Call) :
    ((chassis.run between).perform now call).answer = (chassis.perform now call).answer := by
  obtain ⟨answers, _, _⟩ := Outcome.mk.inj
    (@react_congr now _ _ (@primary_run_of_reads chassis between reads) (.call call))
  exact Response.answered.inj answers

variable (settings : Settings) (history : List (UInt64 × Command))

/--
A read of attributes that an object has succeeds if each list among them is
offered the room that it needs, and reports an overflow otherwise.  In any case
a slot with room holds the value that there is now, and one without asks for
what it needs.  The same read with the slots as they were left then succeeds,
if nothing but reads happened in between, and all slots hold their values.
-/
theorem reads_negotiate_room {index : UInt8} {attrs : Attributes}
    (registered : ((start settings).run history).switches.get? index = some switch)
    (stored : switch.object? key = some attrs)
    (can : ∀ slot ∈ slots, switch.CanFill key slot) {first : Outcome Chassis Answer}
    (made : ((start settings).run history).perform now (.reading key slots) = first) :
    (first.answer.result = .ok .done ↔ ∀ slot ∈ slots, switch.HasRoom key slot) ∧
    (first.answer.result ≠ .ok .done →
      ∃ fault, first.answer.result = .error fault ∧ fault.status = .bufferOverflow) ∧
    List.Forall₂ (switch.Fills key) slots first.answer.slots ∧
    ∀ between later, (∀ entry ∈ between, entry.2.isRead = true) →
      ∃ retried, ((first.state.run between).perform later
          (.reading key first.answer.slots)).answer = ⟨.ok .done, retried⟩ ∧
        retried.map Attribute.id = slots.map Attribute.id ∧
        ∀ attr ∈ retried, switch.value? key attr.id = some attr.value := by
  have finds := finds_of_stored settings history registered stored
  obtain ⟨fills, enough, lacking⟩ := @Finds.answer_of_canFill _ key switch now slots finds can
  rw [made] at fills enough lacking
  refine ⟨⟨?_, enough⟩, ?_, fills, ?_⟩
  · intro done
    by_contra lack
    obtain ⟨needs, failed⟩ := lacking lack
    rw [failed] at done
    cases done
  · intro failed
    obtain ⟨needs, overflow⟩ := lacking fun room => failed (enough room)
    exact ⟨_, overflow, rfl⟩
  · intro between later reads
    have again : ∀ slot ∈ first.answer.slots,
        switch.CanFill key slot ∧ switch.HasRoom key slot := by
      intro slot member
      obtain ⟨offered, listed, own⟩ := Attribute.exists_of_forall₂ fills slot member
      exact own.again (can offered listed) finds.typed
    obtain ⟨_, success, _⟩ := @Finds.answer_of_canFill _ key switch later _ finds
      fun slot member => (again slot member).1
    have done := success fun slot member => (again slot member).2
    obtain ⟨ids, holds⟩ := finds.holds_of_done done
    -- The first read is a read too: all in all nothing has changed since before it.
    have same : ((first.state.run between).perform later
        (.reading key first.answer.slots)).answer =
        (((start settings).run history).perform later
          (.reading key first.answer.slots)).answer := by
      rw [answer_after_reads reads, ← made]
      exact @answer_after_reads _ later [(now, .call (.reading key slots))]
        (List.forall_mem_singleton.mpr (Call.isRead_reading key slots)) _
    have kept := Attribute.ids_of_forall₂ Switch.Fills.id_eq fills
    refine ⟨_, same.trans ?_, ids.trans kept, holds⟩
    exact congrArg (Answer.mk · _) done

/-- A switch with one port is created. -/
def oneSwitch : List (UInt64 × Command) :=
  [(0, .call (.create .switch .null []))]

/-- The default VLAN of the first switch. -/
def firstVlan : ObjectKey :=
  .object (.compose 0 .vlan 1)

/-- The number and the members of a VLAN, with no room for members. -/
def withoutRoom : List Attribute :=
  [.request .vlanVlanId 0, .request .vlanMemberList 0]

/-- The member of the default VLAN does not fit an empty list, but the list that is left. -/
theorem second_read_has_room :
    ∃ first retried,
      ((start .singlePort).run oneSwitch).perform 1 (.reading firstVlan withoutRoom) = first ∧
      (∃ fault, first.answer.result = .error fault ∧ fault.status = .bufferOverflow) ∧
      ((first.state.run []).perform 2 (.reading firstVlan first.answer.slots)).answer =
        ⟨.ok .done, retried⟩ ∧
      retried.map Attribute.id = withoutRoom.map Attribute.id := by
  have values : (((start .singlePort).run oneSwitch).switches.get? 0).map (fun switch =>
      (switch.value? firstVlan .vlanVlanId, switch.value? firstVlan .vlanMemberList,
        switch.contains firstVlan)) =
      some (some (.u16 1), some (.ofIds [.compose 0 .vlanMember 7]), true) := by
    decide +kernel
  obtain ⟨switch, registered, same⟩ := Option.map_eq_some_iff.mp values
  obtain ⟨number, same⟩ := Prod.mk.inj same
  obtain ⟨members, there⟩ := Prod.mk.inj same
  obtain ⟨attrs, stored⟩ := Switch.contains_iff.mp there
  have can : ∀ slot ∈ withoutRoom, switch.CanFill firstVlan slot := by
    refine List.forall_mem_cons.mpr ⟨⟨⟨_, number⟩, nofun, ?_⟩,
      List.forall_mem_singleton.mpr ⟨⟨_, members⟩, fun _ => rfl, ?_⟩⟩
    · intro value count length found sizes
      cases number.symm.trans found
      cases sizes
    · intro value count length found sizes
      cases members.symm.trans found
      cases sizes
      decide
  obtain ⟨first, made⟩ : ∃ first,
      ((start .singlePort).run oneSwitch).perform 1 (.reading firstVlan withoutRoom) = first :=
    ⟨_, rfl⟩
  obtain ⟨_, overflow, _, again⟩ :=
    reads_negotiate_room .singlePort oneSwitch registered stored can made
  obtain ⟨retried, success, ids, _⟩ := again [] 2 (List.forall_mem_nil _)
  refine ⟨first, retried, made, overflow ?_, success, ids⟩
  rw [← made]
  decide +kernel

end Chassis

end SwitchAbstraction
