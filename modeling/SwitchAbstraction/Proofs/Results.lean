import Mathlib.Data.List.Forall2
import SwitchAbstraction.Checks

/-!
# Results of checks in sequence

When a sequence of checks ends well, every check of it did.  The equations
here take such a sequence apart, one check at a time, and say when the checks
on ids and keys pass.
-/

namespace SwitchAbstraction

namespace Results

variable {ε α β γ σ τ : Type}

theorem ok_bind (value : α) (next : α → Except ε β) : (Except.ok value >>= next) = next value :=
  rfl

theorem error_bind (fault : ε) (next : α → Except ε β) :
    (Except.error fault >>= next) = .error fault :=
  rfl

theorem bind_eq_ok_iff {first : Except ε α} {next : α → Except ε β} {value : β} :
    (first >>= next) = .ok value ↔ ∃ given, first = .ok given ∧ next given = .ok value := by
  cases first with
  | error fault =>
      constructor
      · intro impossible
        cases impossible
      · rintro ⟨_, impossible, _⟩
        cases impossible
  | ok given =>
      constructor
      · intro same
        exact ⟨given, rfl, same⟩
      · rintro ⟨_, same, rest⟩
        cases same
        exact rest

theorem map_eq_ok_iff {first : Except ε α} {rewrite : α → β} {value : β} :
    first.map rewrite = .ok value ↔ ∃ given, first = .ok given ∧ rewrite given = value := by
  cases first <;> simp [Except.map]

theorem map_eq_error_iff {first : Except ε α} {rewrite : α → β} {fault : ε} :
    first.map rewrite = .error fault ↔ first = .error fault := by
  cases first <;> simp [Except.map]

theorem map_map (first : Except ε α) (rewrite : α → β) (again : β → γ) :
    (first.map rewrite).map again = first.map (again ∘ rewrite) := by
  cases first <;> rfl

/-- A result with the state in it rewritten. -/
def mapState (rewrite : σ → τ) (result : Except ε (α × σ)) : Except ε (α × τ) :=
  result.map fun pair => (pair.1, rewrite pair.2)

theorem mapState_mapState {rewrite : σ → σ}
    (again : ∀ state, rewrite (rewrite state) = rewrite state) (result : Except ε (α × σ)) :
    mapState rewrite (mapState rewrite result) = mapState rewrite result := by
  cases result with
  | error fault => rfl
  | ok pair => exact congrArg (fun state => Except.ok (pair.1, state)) (again pair.2)

/-- Results that look alike stay alike under rewrites that tell no two alike values apart. -/
theorem map_congr_of_map_eq {first second : Except ε α} {look : α → β} {rewrite other : α → γ}
    (same : first.map look = second.map look)
    (respects : ∀ {value given}, look value = look given → rewrite value = other given) :
    first.map rewrite = second.map other := by
  cases first with
  | error fault =>
      cases second with
      | error _ =>
          cases same
          rfl
      | ok _ => cases same
  | ok value =>
      cases second with
      | error _ => cases same
      | ok given => exact congrArg Except.ok (respects (Except.ok.inj same))

/-- Results that agree once the state is rewritten are refused alike or succeed alike. -/
theorem cases_of_mapState_eq {rewrite : σ → τ} {first second : Except ε (α × σ)}
    (same : mapState rewrite first = mapState rewrite second) :
    (∃ fault, first = .error fault ∧ second = .error fault) ∨
      ∃ value state other, first = .ok (value, state) ∧ second = .ok (value, other) ∧
        rewrite state = rewrite other := by
  cases first with
  | error fault =>
      cases second with
      | error _ =>
          cases same
          exact .inl ⟨fault, rfl, rfl⟩
      | ok _ => cases same
  | ok pair =>
      cases second with
      | error _ => cases same
      | ok other =>
          obtain ⟨value, state⟩ := pair
          obtain ⟨_, after⟩ := other
          obtain ⟨rfl, states⟩ := Prod.mk.inj (Except.ok.inj same)
          exact .inr ⟨value, state, after, rfl, rfl, states⟩

theorem discard_eq_ok_iff {first : Except ε α} :
    discard first = .ok () ↔ ∃ given, first = .ok given := by
  cases first with
  | error fault =>
      constructor
      · intro impossible
        cases impossible
      · rintro ⟨_, impossible⟩
        cases impossible
  | ok given =>
      constructor
      · intro _
        exact ⟨given, rfl⟩
      · intro _
        rfl

theorem forM_eq_ok {check : α → Except ε PUnit} {list : List α}
    (passed : list.forM check = .ok ()) : ∀ item ∈ list, check item = .ok () := by
  induction list with
  | nil =>
      intro item member
      cases member
  | cons head rest ih =>
      obtain ⟨_, first, others⟩ := bind_eq_ok_iff.mp passed
      intro item member
      rcases List.mem_cons.mp member with rfl | inRest
      · exact first
      · exact ih others item inRest

theorem forM_of_forall {check : α → Except ε PUnit} {list : List α}
    (passes : ∀ item ∈ list, check item = .ok ()) : list.forM check = .ok () := by
  induction list with
  | nil => rfl
  | cons head rest ih =>
      obtain ⟨first, others⟩ := List.forall_mem_cons.mp passes
      exact bind_eq_ok_iff.mpr ⟨(), first, ih others⟩

/-- Reading each item of a list succeeds exactly when there is a value for each of them. -/
theorem mapM_eq_ok_iff {read : α → Except ε β} {items : List α} {values : List β} :
    items.mapM read = .ok values ↔
      List.Forall₂ (fun item value => read item = .ok value) items values := by
  induction items generalizing values with
  | nil =>
      rw [List.forall₂_nil_left_iff]
      constructor
      · intro same
        cases same
        rfl
      · rintro rfl
        rfl
  | cons item rest ih =>
      rw [List.mapM_cons, List.forall₂_cons_left_iff, bind_eq_ok_iff]
      constructor
      · rintro ⟨value, own, same⟩
        obtain ⟨others, found, same⟩ := bind_eq_ok_iff.mp same
        cases same
        exact ⟨value, others, own, ih.mp found, rfl⟩
      · rintro ⟨value, others, own, found, rfl⟩
        exact ⟨value, own, bind_eq_ok_iff.mpr ⟨others, ih.mpr found, rfl⟩⟩

/-- It fails exactly when one of the items cannot be read. -/
theorem mapM_eq_error_iff {read : α → Except ε β} {items : List α} :
    (∃ fault, items.mapM read = .error fault) ↔
      ∃ item ∈ items, ∃ fault, read item = .error fault := by
  induction items with
  | nil =>
      constructor
      · rintro ⟨_, impossible⟩
        cases impossible
      · rintro ⟨_, impossible, _⟩
        cases impossible
  | cons item rest ih =>
      rw [List.mapM_cons]
      cases own : read item with
      | error fault =>
          exact ⟨fun _ => ⟨item, List.mem_cons_self, fault, own⟩, fun _ => ⟨fault, rfl⟩⟩
      | ok value =>
          constructor
          · rintro ⟨fault, failed⟩
            have later : rest.mapM read = .error fault := by
              cases others : rest.mapM read with
              | error _ =>
                  rw [others] at failed
                  exact failed
              | ok _ =>
                  rw [others] at failed
                  cases failed
            obtain ⟨other, member, unreadable⟩ := ih.mp ⟨fault, later⟩
            exact ⟨other, List.mem_cons_of_mem item member, unreadable⟩
          · rintro ⟨other, member, fault, unreadable⟩
            rcases List.mem_cons.mp member with rfl | later
            · rw [own] at unreadable
              cases unreadable
            · obtain ⟨first, failed⟩ := ih.mpr ⟨other, later, fault, unreadable⟩
              rw [failed]
              exact ⟨first, rfl⟩

end Results

open Results

namespace ObjectId

theorem type?_null : null.type? = some .null := by
  decide

/-- An id with the type bits of a type that is addressed by ids does not name nothing. -/
theorem isNull_eq_false {id : ObjectId} {type : ObjectType} (typed : id.type? = some type)
    (addressed : type.isIdAddressed = true) : id.isNull = false := by
  refine decide_eq_false ?_
  rintro rfl
  rw [type?_null] at typed
  cases typed
  cases addressed

/-- An id passes as an object of a type exactly when its bits say so. -/
theorem expectType_eq_ok_iff {id : ObjectId} {expected : ObjectType}
    (real : expected ≠ .null) :
    id.expectType expected = .ok () ↔ id.type? = some expected := by
  unfold expectType isNull
  by_cases null : id = .null
  · subst null
    simp [type?_null, Ne.symm real]
  · simp only [null, decide_false, Bool.false_eq_true, if_false]
    cases id.type? with
    | none => simp
    | some actual =>
        by_cases same : actual = expected
        · simp [same]
        · simp [same]

end ObjectId

namespace ObjectKey

/-- The key of a typed id is the id itself, and the id is of that type. -/
theorem ofTypedId_eq_ok {type : ObjectType} {id : ObjectId} {key : ObjectKey}
    (passed : ofTypedId type id = .ok key) :
    key = .object id ∧ id.type? = some type ∧ type.isIdAddressed = true := by
  obtain ⟨_, expected, named⟩ := bind_eq_ok_iff.mp passed
  have real : type ≠ .null := by
    rintro rfl
    unfold ofId at named
    unfold ObjectId.expectType at expected
    by_cases null : id.isNull = true
    · simp [null] at expected
    · cases typed : id.type? with
      | none => simp [null, typed] at expected
      | some actual =>
          by_cases same : actual = .null
          · simp [typed, same] at named
          · simp [null, typed, same] at expected
  have typed := (ObjectId.expectType_eq_ok_iff real).mp expected
  unfold ofId at named
  rw [typed] at named
  split at named
  · cases named
  · next other found =>
      cases found
      split at named
      · next addressed =>
          cases named
          exact ⟨rfl, typed, addressed⟩
      · cases named
  · next absent => cases absent

end ObjectKey

end SwitchAbstraction
