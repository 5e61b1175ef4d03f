import SwitchAbstraction.Ids
import SwitchAbstraction.Proofs.Results

/-!
# Drawing ids

Ids drawn one after another carry counters one after another, so they are all
new and no two are the same.  Drawing stops at the first id that cannot be had,
and uses up the counters before it.
-/

namespace SwitchAbstraction

namespace ObjectType

/-- Whether objects of a type draw their ids from the counter, as all but switches do. -/
def isCounted (type : ObjectType) : Bool :=
  type.isIdAddressed && type ≠ .switch

theorem isCounted_iff {type : ObjectType} :
    type.isCounted = true ↔ type.isIdAddressed = true ∧ type ≠ .switch := by
  simp [isCounted]

end ObjectType

namespace ObjectId

/-- An id that was drawn on a switch while the counter went from one value to another. -/
structure IsDrawn (index : UInt8) (first last : Nat) (id : ObjectId) : Prop where
  index_eq : id.switchIndex = index
  type_ne : id.type? ≠ some .switch
  after : first < id.counter
  upTo : id.counter ≤ last

theorem IsDrawn.widen {index : UInt8} {first last earlier later : Nat} {id : ObjectId}
    (drawn : id.IsDrawn index first last) (before : earlier ≤ first) (behind : last ≤ later) :
    id.IsDrawn index earlier later :=
  ⟨drawn.index_eq, drawn.type_ne, Nat.lt_of_le_of_lt before drawn.after,
    Nat.le_trans drawn.upTo behind⟩

end ObjectId

namespace IdAllocator

variable {ids next : IdAllocator} {index : UInt8} {type : ObjectType} {id : ObjectId}

theorem allocate_of_lt (counted : type.isCounted = true)
    (fits : ids.last + 1 < ObjectId.counterLimit) :
    ids.allocate index type = .ok (.compose index type (ids.last + 1), ⟨ids.last + 1⟩) := by
  obtain ⟨addressed, other⟩ := ObjectType.isCounted_iff.mp counted
  unfold allocate
  rw [if_neg other, ObjectId.encode_of_lt addressed fits]

theorem allocate_of_not_lt (counted : type.isCounted = true)
    (short : ObjectId.counterLimit ≤ ids.last + 1) :
    ids.allocate index type = .error (.failed .countersExhausted) := by
  obtain ⟨addressed, other⟩ := ObjectType.isCounted_iff.mp counted
  unfold allocate
  rw [if_neg other, ObjectId.encode_of_not_lt addressed short]

/-- A drawn id carries the counter after the last one, which fits. -/
theorem allocate_eq_ok (counted : type.isCounted = true)
    (drawn : ids.allocate index type = .ok (id, next)) :
    ids.last + 1 < ObjectId.counterLimit ∧ id = .compose index type (ids.last + 1) ∧
      next.last = ids.last + 1 := by
  by_cases fits : ids.last + 1 < ObjectId.counterLimit
  · rw [allocate_of_lt counted fits] at drawn
    cases drawn
    exact ⟨fits, rfl, rfl⟩
  · rw [allocate_of_not_lt counted (Nat.not_lt.mp fits)] at drawn
    cases drawn

theorem isDrawn_of_allocate (counted : type.isCounted = true)
    (drawn : ids.allocate index type = .ok (id, next)) :
    id.IsDrawn index ids.last next.last ∧ id.type? = some type := by
  obtain ⟨fits, rfl, same⟩ := allocate_eq_ok counted drawn
  have counter : (ObjectId.compose index type (ids.last + 1)).counter = ids.last + 1 :=
    ObjectId.counter_compose fits
  have typed : (ObjectId.compose index type (ids.last + 1)).type? = some type :=
    ObjectId.type?_compose fits
  refine ⟨⟨ObjectId.switchIndex_compose fits, ?_, by omega, by omega⟩, typed⟩
  rw [typed]
  intro switch
  exact (ObjectType.isCounted_iff.mp counted).2 (Option.some.inj switch)

/-- Draws an id for each type, up to the first that cannot be had. -/
def draw (ids : IdAllocator) (index : UInt8) : List ObjectType → List ObjectId × IdAllocator
  | [] => ([], ids)
  | type :: rest =>
      match ids.allocate index type with
      | .error _ => ([], ids)
      | .ok (id, next) =>
          let (drawn, final) := next.draw index rest
          (id :: drawn, final)

/-- What is drawn carries counters after the last one, and no id is drawn twice. -/
theorem draw_spec {types : List ObjectType} (counted : ∀ type ∈ types, type.isCounted = true) :
    ids.last ≤ (ids.draw index types).2.last ∧
      (∀ id ∈ (ids.draw index types).1,
        id.IsDrawn index ids.last (ids.draw index types).2.last) ∧
      (ids.draw index types).1.Nodup := by
  induction types generalizing ids with
  | nil => exact ⟨Nat.le_refl _, by simp [draw], List.nodup_nil⟩
  | cons type rest ih =>
      obtain ⟨countedHead, countedRest⟩ := List.forall_mem_cons.mp counted
      unfold draw
      cases drawn : ids.allocate index type with
      | error fault => exact ⟨Nat.le_refl _, by simp, List.nodup_nil⟩
      | ok pair =>
          obtain ⟨id, next⟩ := pair
          obtain ⟨later, isDrawn, distinct⟩ := @ih next countedRest
          obtain ⟨own, _⟩ := isDrawn_of_allocate countedHead drawn
          have step : ids.last ≤ next.last :=
            Nat.le_trans (Nat.le_of_lt own.after) own.upTo
          refine ⟨Nat.le_trans step later, ?_, ?_⟩
          · intro other member
            rcases List.mem_cons.mp member with rfl | inRest
            · exact own.widen (Nat.le_refl _) later
            · exact (isDrawn other inRest).widen step (Nat.le_refl _)
          · refine List.nodup_cons.mpr ⟨?_, distinct⟩
            intro again
            exact absurd (isDrawn id again).after (Nat.not_lt.mpr own.upTo)

/-- While there are counters enough, the ids drawn carry the counters in order. -/
theorem draw_of_lt {types : List ObjectType} (counted : ∀ type ∈ types, type.isCounted = true)
    (fits : ids.last + types.length < ObjectId.counterLimit) :
    ids.draw index types =
      (types.mapIdx fun place type => .compose index type (ids.last + (place + 1)),
        ⟨ids.last + types.length⟩) := by
  induction types generalizing ids with
  | nil => rfl
  | cons type rest ih =>
      obtain ⟨countedHead, countedRest⟩ := List.forall_mem_cons.mp counted
      rw [List.length_cons] at fits
      have tail := @ih ⟨ids.last + 1⟩ countedRest (by simp only; omega)
      unfold draw
      rw [allocate_of_lt countedHead (by omega)]
      simp only [tail, List.mapIdx_cons, List.length_cons, Nat.add_comm,
        Nat.add_left_comm]

/-- If there are too few counters, drawing uses up all that are left. -/
theorem draw_of_not_lt {types : List ObjectType}
    (counted : ∀ type ∈ types, type.isCounted = true)
    (short : ObjectId.counterLimit ≤ ids.last + types.length) :
    (ids.draw index types).2 = ⟨max ids.last (ObjectId.counterLimit - 1)⟩ := by
  induction types generalizing ids with
  | nil =>
      have past : ObjectId.counterLimit - 1 ≤ ids.last := Nat.le_trans (Nat.sub_le _ 1) short
      simp [draw, Nat.max_eq_left past]
  | cons type rest ih =>
      obtain ⟨countedHead, countedRest⟩ := List.forall_mem_cons.mp counted
      rw [List.length_cons] at short
      unfold draw
      by_cases fits : ids.last + 1 < ObjectId.counterLimit
      · rw [allocate_of_lt countedHead fits]
        have tail := @ih ⟨ids.last + 1⟩ countedRest (by simp only; omega)
        simp only [tail]
        congr 1
        omega
      · rw [allocate_of_not_lt countedHead (Nat.not_lt.mp fits)]
        have past : ObjectId.counterLimit - 1 ≤ ids.last := by omega
        simp [Nat.max_eq_left past]

end IdAllocator

end SwitchAbstraction
