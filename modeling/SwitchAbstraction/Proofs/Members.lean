import SwitchAbstraction.Proofs.Negotiation

/-!
# Derived lists

The members of a VLAN, the ports of a bridge or of a link aggregation group and
the ports of a switch are read as they are at the time of the read: each live
object that belongs to the one that is read is listed once, in the order of the
ids.  What is stored for these attributes never shows.
-/

namespace SwitchAbstraction

/-- The type of the objects that a derived list names, and how these refer to the one listing. -/
def AttrId.backReference? : AttrId → Option (ObjectType × AttrId)
  | .vlanMemberList => some (.vlanMember, .vlanMemberVlanId)
  | .bridgePortList => some (.bridgePort, .bridgePortBridgeId)
  | .lagPortList => some (.lagMember, .lagMemberLagId)
  | _ => none

/-- The attributes that list other objects, as these are at the time of a read. -/
def AttrId.memberLists : List AttrId :=
  [.vlanMemberList, .bridgePortList, .lagPortList, .switchPortList]

namespace Switch

variable {switch : Switch} {type : ObjectType} {target member : ObjectId} {list : AttrId}

/--
A live object belongs into the derived list of a target: it refers to the target
through the attribute for that or, for the ports of a switch, is not its processor port.
-/
inductive IsMember (switch : Switch) (list : AttrId) (target member : ObjectId) : Prop
  | reference {type : ObjectType} {attr : AttrId} {attrs : Attributes}
      (listed : list.backReference? = some (type, attr)) (named : member.type? = some type)
      (live : switch.object? (.object member) = some attrs)
      (refers : attrs.get? attr = some (.oid target)) : IsMember switch list target member
  | dataPort {attrs : Attributes} (listed : list = .switchPortList)
      (named : member.type? = some .port) (live : switch.object? (.object member) = some attrs)
      (front : attrs.get? .portType ≠ some (.s32 PortType.cpu.code)) :
      IsMember switch list target member

/-! ## Members -/

theorem IsTyped.mem_referencing_iff (typed : switch.IsTyped) {attr : AttrId} :
    member ∈ switch.referencing type attr target ↔
      member.type? = some type ∧ ∃ attrs, switch.object? (.object member) = some attrs ∧
        attrs.get? attr = some (.oid target) := by
  rw [referencing_eq_idsOf, typed.named.mem_idsOf_iff]
  constructor
  · rintro ⟨attrs, named, live, refers⟩
    exact ⟨named, attrs, live, Attributes.oid?_eq_some_iff.mp (of_decide_eq_true refers)⟩
  · rintro ⟨named, attrs, live, refers⟩
    exact ⟨attrs, named, live, decide_eq_true (Attributes.oid?_eq_some_iff.mpr refers)⟩

theorem IsTyped.mem_dataPorts_iff (typed : switch.IsTyped) :
    member ∈ switch.dataPorts ↔
      member.type? = some .port ∧ ∃ attrs, switch.object? (.object member) = some attrs ∧
        attrs.get? .portType ≠ some (.s32 PortType.cpu.code) := by
  have cpu (attrs : Attributes) : (!isCpuPort attrs) = true ↔
      attrs.get? .portType ≠ some (.s32 PortType.cpu.code) := by
    unfold isCpuPort
    rw [Bool.not_eq_true', decide_eq_false_iff_not, Attributes.s32?_eq_some_iff]
  rw [dataPorts_eq_idsOf, typed.named.mem_idsOf_iff]
  constructor
  · rintro ⟨attrs, named, live, front⟩
    exact ⟨named, attrs, live, (cpu attrs).mp front⟩
  · rintro ⟨named, attrs, live, front⟩
    exact ⟨attrs, named, live, (cpu attrs).mpr front⟩

theorem value?_of_backReference {attr : AttrId} (listed : list.backReference? = some (type, attr))
    (own : (ObjectKey.object target).type = list.objectType) :
    switch.value? (.object target) list = some (.ofIds (switch.referencing type attr target)) := by
  unfold value? derived
  rw [own]
  unfold AttrId.backReference? at listed
  split at listed
  · cases listed
    rfl
  · cases listed
    rfl
  · cases listed
    rfl
  · cases listed

theorem value?_of_switch (own : (ObjectKey.object target).type = .switch) :
    switch.value? (.object target) .switchPortList = some (.ofIds switch.dataPorts) ∧
      switch.value? (.object target) .switchPortNumber =
        some (.u32 (UInt32.ofNat switch.dataPorts.length)) := by
  unfold value? derived
  rw [own]
  exact ⟨rfl, rfl⟩

/-- The value of a derived list is the list of its members, and the number of ports its length. -/
theorem IsTyped.exists_members (typed : switch.IsTyped) (isList : list ∈ AttrId.memberLists)
    (own : (ObjectKey.object target).type = list.objectType) :
    ∃ members, switch.value? (.object target) list = some (.ofIds members) ∧
      (list = .switchPortList → switch.value? (.object target) .switchPortNumber =
        some (.u32 (UInt32.ofNat members.length))) ∧
      members.Pairwise (fun first second => first.raw.toNat < second.raw.toNat) ∧
      ∀ member, member ∈ members ↔ switch.IsMember list target member := by
  cases listed : list.backReference? with
  | some reference =>
      obtain ⟨type, attr⟩ := reference
      refine ⟨_, value?_of_backReference listed own, ?_, ?_, fun member => ?_⟩
      · rintro rfl
        cases listed
      · rw [referencing_eq_idsOf]
        exact typed.named.sorted_idsOf
      · rw [typed.mem_referencing_iff]
        constructor
        · rintro ⟨named, attrs, live, refers⟩
          exact .reference listed named live refers
        · rintro (⟨same, named, live, refers⟩ | ⟨rfl, _⟩)
          · cases listed.symm.trans same
            exact ⟨named, _, live, refers⟩
          · cases listed
  | none =>
      have ports : list = .switchPortList := by
        simp only [AttrId.memberLists, List.mem_cons, List.not_mem_nil, or_false] at isList
        rcases isList with rfl | rfl | rfl | rfl
        · cases listed
        · cases listed
        · cases listed
        · rfl
      subst ports
      obtain ⟨value, number⟩ := value?_of_switch own
      refine ⟨_, value, fun _ => number, ?_, fun member => ?_⟩
      · rw [dataPorts_eq_idsOf]
        exact typed.named.sorted_idsOf
      · rw [typed.mem_dataPorts_iff]
        constructor
        · rintro ⟨named, attrs, live, front⟩
          exact .dataPort rfl named live front
        · rintro (⟨same, _⟩ | ⟨_, named, live, front⟩)
          · cases same
          · exact ⟨named, _, live, front⟩

/-- A list with as much room as it has members can be filled. -/
theorem canFill_request {members : List ObjectId} {capacity : UInt32}
    (value : switch.value? (.object target) list = some (.ofIds members))
    (room : members.length ≤ capacity.toNat) :
    switch.CanFill (.object target) (.request list capacity) ∧
      switch.HasRoom (.object target) (.request list capacity) := by
  have sizes {other : AttrValue} {count : UInt32} {length : Nat}
      (found : switch.value? (.object target) list = some other)
      (isList : other.sizes? = some (count, length)) : length = members.length := by
    cases value.symm.trans found
    cases isList
    rfl
  refine ⟨⟨⟨_, value⟩, fun _ => AttrValue.kind_slot _ _, ?_⟩, ?_⟩
  · intro other count length found isList
    rw [sizes found isList]
    exact Nat.lt_of_le_of_lt room capacity.toNat_lt_size
  · intro other found offered held count length offers isList
    rw [sizes found isList, AttrValue.capacity_of_slot offers]
    exact room

end Switch

namespace Chassis

variable (settings : Settings) (history : List (UInt64 × Command))

/--
The derived list of a VLAN, a bridge, a link aggregation group or a switch has
one sequence of members, strictly ascending, which are the live objects that
belong into it.  Every read of it that succeeds gives just these, and so does
one of the number of ports their number; and it succeeds if there is room.
-/
theorem reads_list_members {index : UInt8} {switch : Switch} {target : ObjectId}
    {attrs : Attributes} {list : AttrId}
    (registered : ((start settings).run history).switches.get? index = some switch)
    (stored : switch.object? (.object target) = some attrs)
    (isList : list ∈ AttrId.memberLists)
    (own : (ObjectKey.object target).type = list.objectType) :
    ∃ members : List ObjectId,
      members.Pairwise (fun first second => first.raw.toNat < second.raw.toNat) ∧
      (∀ member, member ∈ members ↔ switch.IsMember list target member) ∧
      (∀ now slots answer, (((start settings).run history).perform now
          (.reading (.object target) slots)).answer = answer → answer.result = .ok .done →
        answer.slots.map Attribute.id = slots.map Attribute.id ∧
        ∀ attr ∈ answer.slots,
          (attr.id = list → attr.value = .ofIds members) ∧
          (list = .switchPortList → attr.id = .switchPortNumber → members.length < UInt32.size →
            ∃ number, attr.value = .u32 number ∧ number.toNat = members.length)) ∧
      ∀ now capacity, members.length ≤ capacity.toNat →
        (((start settings).run history).perform now
          (.reading (.object target) [.request list capacity])).answer.result = .ok .done := by
  have finds := finds_of_stored settings history registered stored
  obtain ⟨members, value, number, sorted, areMembers⟩ := finds.typed.exists_members isList own
  refine ⟨members, sorted, areMembers, ?_, ?_⟩
  · rintro now slots answer rfl done
    obtain ⟨ids, holds⟩ := finds.holds_of_done done
    refine ⟨ids, fun attr member => ⟨?_, ?_⟩⟩
    · intro same
      have held := holds attr member
      rw [same] at held
      exact Option.some.inj (held.symm.trans value)
    · intro ports same few
      have held := holds attr member
      rw [same] at held
      refine ⟨UInt32.ofNat members.length, ?_, UInt32.toNat_ofNat_of_lt' few⟩
      exact Option.some.inj (held.symm.trans (number ports))
  · intro now capacity room
    obtain ⟨can, hasRoom⟩ := Switch.canFill_request value room
    obtain ⟨_, success, _⟩ := @Finds.answer_of_canFill _ _ _ now _ finds
      (List.forall_mem_singleton.mpr can)
    exact success (List.forall_mem_singleton.mpr hasRoom)

/-- The only member of the default VLAN of the first switch. -/
def onlyMember : ObjectId :=
  .compose 0 .vlanMember 7

/-- The members of the default VLAN are read, and then the only one is removed. -/
def withoutMember : List (UInt64 × Command) :=
  oneSwitch ++ [(1, .call (.reading firstVlan [.request .vlanMemberList 4])),
    (2, .call (.remove .vlanMember onlyMember))]

/-- A member that was removed is still stored as one, but not read any more. -/
theorem removed_member_is_not_read :
    ∃ (attrs : Attributes) (members : List ObjectId) (answer : Answer),
      (((start .singlePort).run withoutMember).switches.get? 0).bind
        (fun switch => switch.object? firstVlan) = some attrs ∧
      attrs.get? .vlanMemberList = some (.ofIds [onlyMember]) ∧ onlyMember ∉ members ∧
      (((start .singlePort).run withoutMember).perform 3
        (.reading firstVlan [.request .vlanMemberList 4])).answer = answer ∧
      answer.result = .ok .done ∧
      ∀ attr ∈ answer.slots, attr.id = .vlanMemberList → attr.value = .ofIds members := by
  have kept : ((((start .singlePort).run withoutMember).switches.get? 0).bind fun switch =>
      switch.object? firstVlan).bind (fun attrs => attrs.get? .vlanMemberList) =
        some (.ofIds [onlyMember]) := by
    decide +kernel
  obtain ⟨attrs, found, old⟩ := Option.bind_eq_some_iff.mp kept
  obtain ⟨switch, registered, stored⟩ := Option.bind_eq_some_iff.mp found
  have gone : (((start .singlePort).run withoutMember).switches.get? 0).any
      (fun switch => switch.contains (.object onlyMember)) = false := by
    decide +kernel
  rw [registered] at gone
  obtain ⟨members, _, areMembers, reads, _⟩ :=
    reads_list_members .singlePort withoutMember registered stored
      (List.mem_cons_self : AttrId.vlanMemberList ∈ AttrId.memberLists) (by decide)
  obtain ⟨answer, made⟩ : ∃ answer, (((start .singlePort).run withoutMember).perform 3
      (.reading firstVlan [.request .vlanMemberList 4])).answer = answer := ⟨_, rfl⟩
  have done : answer.result = .ok .done := by
    rw [← made]
    decide +kernel
  obtain ⟨_, values⟩ := reads 3 _ answer made done
  refine ⟨attrs, members, answer, found, old, fun listed => ?_, made, done,
    fun attr member => (values attr member).1⟩
  have absent := Switch.contains_eq_false_iff.mp gone
  rcases (areMembers onlyMember).mp listed with ⟨_, _, live, _⟩ | ⟨_, _, live, _⟩
  · cases absent.symm.trans live
  · cases absent.symm.trans live

end Chassis

end SwitchAbstraction
