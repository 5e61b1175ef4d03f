import Mathlib.Data.List.Sort
import SwitchAbstraction.Proofs.Objects

/-!
# Objects of a type

The objects of a type that pass a test are selected in the order of their
keys, which for ids of one type is that of their numbers.  So a selection is
known by its members.
-/

namespace SwitchAbstraction

namespace ObjectKey

theorem id?_eq_some_iff {key : ObjectKey} {id : ObjectId} :
    key.id? = some id ↔ key = .object id := by
  cases key with
  | object own => exact ⟨fun same => congrArg object (Option.some.inj same), congrArg id?⟩
  | fdb | route | neighbor => exact ⟨nofun, nofun⟩

theorem type_object {id : ObjectId} {type : ObjectType} (typed : id.type? = some type) :
    (object id).type = type := by
  change id.type?.getD .null = type
  rw [typed]
  rfl

/-- Ids of one type are stored in the order of their numbers. -/
theorem raw_lt_of_before {first second : ObjectId} (same : first.type? = second.type?)
    (before : Ranked.Before (object first) (object second)) :
    first.raw.toNat < second.raw.toNat := by
  have types : (object first).type = (object second).type := by
    change first.type?.getD .null = second.type?.getD .null
    rw [same]
  have less : [(object first).type.number, 0, first.type?.elim 256 ObjectType.number,
        first.raw.toNat] <
      [(object second).type.number, 0, second.type?.elim 256 ObjectType.number,
        second.raw.toNat] :=
    before
  rw [types, same] at less
  simpa [List.cons_lt_cons_iff] using less

end ObjectKey

namespace Switch

variable {switch : Switch} {type : ObjectType} {target member : ObjectId}
  {keep : Attributes → Bool}

/-- The ids of all objects say what type they are of. -/
def IsNamed (switch : Switch) : Prop :=
  ∀ id attrs, switch.object? (.object id) = some attrs → ∃ type, id.type? = some type

/-- The ids of the objects of a type that pass a test. -/
def idsOf (switch : Switch) (type : ObjectType) (keep : Attributes → Bool) : List ObjectId :=
  (switch.objectsOf type).filterMap fun entry => if keep entry.2 then entry.1.id? else none

/-- A live object of a type that passes a test. -/
structure IsOf (switch : Switch) (type : ObjectType) (keep : Attributes → Bool)
    (member : ObjectId) (attrs : Attributes) : Prop where
  typed : member.type? = some type
  live : switch.object? (.object member) = some attrs
  kept : keep attrs = true

theorem IsNamed.isOf_of_mem (named : switch.IsNamed) {entry : ObjectKey × Attributes}
    (listed : entry ∈ switch.objectsOf type)
    (selected : (if keep entry.2 then entry.1.id? else none) = some member) :
    entry.1 = .object member ∧ switch.IsOf type keep member entry.2 := by
  obtain ⟨key, attrs⟩ := entry
  obtain ⟨kept, own⟩ := Option.ite_none_right_eq_some.mp selected
  obtain rfl := ObjectKey.id?_eq_some_iff.mp own
  obtain ⟨stored, isType⟩ := List.mem_filter.mp listed
  have live : switch.object? (.object member) = some attrs :=
    OrderedMap.get?_eq_some_iff.mpr stored
  obtain ⟨other, typed⟩ := named member attrs live
  have same : other = type := (ObjectKey.type_object typed).symm.trans (of_decide_eq_true isType)
  exact ⟨rfl, same ▸ typed, live, kept⟩

theorem IsNamed.mem_idsOf_iff (named : switch.IsNamed) :
    member ∈ switch.idsOf type keep ↔ ∃ attrs, switch.IsOf type keep member attrs := by
  unfold idsOf
  rw [List.mem_filterMap]
  constructor
  · rintro ⟨entry, listed, selected⟩
    exact ⟨entry.2, (named.isOf_of_mem listed selected).2⟩
  · rintro ⟨attrs, typed, live, kept⟩
    refine ⟨(.object member, attrs), List.mem_filter.mpr ⟨?_, ?_⟩, if_pos kept⟩
    · exact OrderedMap.get?_eq_some_iff.mp live
    · exact decide_eq_true (ObjectKey.type_object typed)

/-- The ids of a selection are strictly ascending, as the objects of a type are. -/
theorem IsNamed.sorted_idsOf (named : switch.IsNamed) :
    (switch.idsOf type keep).Pairwise fun first second =>
      first.raw.toNat < second.raw.toNat := by
  have ascending : (switch.objectsOf type).Pairwise fun first second =>
      Ranked.Before first.1 second.1 :=
    switch.objects.sorted.filter _
  unfold idsOf
  rw [List.pairwise_filterMap]
  refine ascending.imp_of_mem fun {first second} earlier later before id selected other also => ?_
  obtain ⟨own, isOf⟩ := named.isOf_of_mem earlier selected
  obtain ⟨theirs, isOfToo⟩ := named.isOf_of_mem later also
  rw [own, theirs] at before
  exact ObjectKey.raw_lt_of_before (isOf.typed.trans isOfToo.typed.symm) before

theorem IsNamed.nodup_idsOf (named : switch.IsNamed) (type : ObjectType)
    (keep : Attributes → Bool) : (switch.idsOf type keep).Nodup := by
  unfold List.Nodup
  refine named.sorted_idsOf.imp fun {first second} less same => ?_
  rw [same] at less
  exact Nat.lt_irrefl _ less

/-- Objects that ascend with their positions are selected in the order of these. -/
theorem IsNamed.idsOf_eq (named : switch.IsNamed) {count : Nat} {ids : Nat → ObjectId}
    (ascends : ∀ first second, first < second → second < count →
      (ids first).raw.toNat < (ids second).raw.toNat)
    (all : ∀ position < count, ∃ attrs, switch.IsOf type keep (ids position) attrs)
    (only : ∀ {member attrs}, switch.IsOf type keep member attrs →
      ∃ position < count, member = ids position) :
    switch.idsOf type keep = (List.range count).map ids := by
  have ascending : ((List.range count).map ids).Pairwise fun first second =>
      first.raw.toNat < second.raw.toNat := by
    rw [List.pairwise_map]
    refine List.pairwise_lt_range.imp_of_mem fun {first second} _ late before => ?_
    exact ascends first second before (List.mem_range.mp late)
  have : Std.Irrefl fun first second : ObjectId => first.raw.toNat < second.raw.toNat :=
    ⟨fun _ => Nat.lt_irrefl _⟩
  have : Std.Antisymm fun first second : ObjectId => first.raw.toNat < second.raw.toNat :=
    ⟨fun _ _ less more => absurd more (Nat.lt_asymm less)⟩
  -- Both lists ascend, so they are the same if they have the same members.
  refine named.sorted_idsOf.eq_of_mem_iff ascending fun member => ?_
  rw [named.mem_idsOf_iff, List.mem_map]
  constructor
  · rintro ⟨attrs, isOf⟩
    obtain ⟨position, inside, rfl⟩ := only isOf
    exact ⟨position, List.mem_range.mpr inside, rfl⟩
  · rintro ⟨position, listed, rfl⟩
    exact all position (List.mem_range.mp listed)

theorem referencing_eq_idsOf (attr : AttrId) :
    switch.referencing type attr target =
      switch.idsOf type fun attrs => decide (attrs.oid? attr = some target) := by
  unfold referencing idsOf
  simp only [decide_eq_true_eq]

theorem dataPorts_eq_idsOf :
    switch.dataPorts = switch.idsOf .port fun attrs => !isCpuPort attrs := by
  unfold dataPorts idsOf
  congr 1
  funext entry
  by_cases cpu : isCpuPort entry.2 = true
  · simp [cpu]
  · simp [cpu]

end Switch

end SwitchAbstraction
