import SwitchAbstraction.OrderedMap

/-!
# Look-up in ordered maps

One equation per operation, through look-up, and the two facts that make
look-up a full view: a binding is found exactly when it is listed, and maps
that answer every look-up alike are equal.
-/

namespace SwitchAbstraction.OrderedMap

open Ranked (Before)

variable {κ ν μ : Type} [Ranked κ] [DecidableEq κ]

theorem lookup_place (key other : κ) (value : ν) (list : List (κ × ν)) :
    lookup other (place key value list) =
      if other = key then some value else lookup other list := by
  induction list with
  | nil => simp [place, lookup]
  | cons head rest ih =>
      obtain ⟨first, old⟩ := head
      unfold place
      split
      · next same =>
          subst same
          simp only [lookup]
          split <;> rfl
      · next different =>
          split
          · rfl
          · simp only [lookup, ih]
            split
            · next same => simp [same, Ne.symm different]
            · rfl

/-- A listed binding of an ascending list is the one that look-up finds. -/
theorem lookup_eq_some_iff {list : List (κ × ν)}
    (sorted : list.Pairwise fun first second => Before first.1 second.1)
    {key : κ} {value : ν} :
    lookup key list = some value ↔ (key, value) ∈ list := by
  induction list with
  | nil => simp [lookup]
  | cons head rest ih =>
      obtain ⟨first, old⟩ := head
      rw [List.pairwise_cons] at sorted
      unfold lookup
      split
      · next same =>
          subst same
          constructor
          · rintro found
            simp [Option.some.inj found]
          · intro member
            rcases List.mem_cons.mp member with own | later
            · simp [(Prod.mk.inj own).2]
            · exact absurd (sorted.1 _ later) (Before.irrefl key)
      · next different =>
          rw [ih sorted.2, List.mem_cons]
          constructor
          · exact .inr
          · rintro (own | later)
            · exact absurd (Prod.mk.inj own).1 different
            · exact later

/-- A binding is found exactly when it is listed. -/
theorem get?_eq_some_iff {map : OrderedMap κ ν} {key : κ} {value : ν} :
    map.get? key = some value ↔ (key, value) ∈ map.entries :=
  lookup_eq_some_iff map.sorted

omit [Ranked κ] in
theorem mem_of_lookup {list : List (κ × ν)} {key : κ} {value : ν}
    (found : lookup key list = some value) : (key, value) ∈ list := by
  induction list with
  | nil => cases found
  | cons head rest ih =>
      obtain ⟨first, old⟩ := head
      unfold lookup at found
      split at found
      · next same =>
          subst same
          cases found
          exact List.mem_cons_self
      · exact List.mem_cons_of_mem _ (ih found)

omit [Ranked κ] in
theorem exists_lookup_of_mem {list : List (κ × ν)} {key : κ} {value : ν}
    (member : (key, value) ∈ list) : ∃ other, lookup key list = some other := by
  induction list with
  | nil => cases member
  | cons head rest ih =>
      obtain ⟨first, old⟩ := head
      unfold lookup
      split
      · exact ⟨old, rfl⟩
      · next different =>
          rcases List.mem_cons.mp member with own | later
          · exact absurd (Prod.mk.inj own).1 different
          · exact ih later

omit [Ranked κ] in
theorem lookup_cons (key other : κ) (value : ν) (rest : List (κ × ν)) :
    lookup key ((other, value) :: rest) = if key = other then some value else lookup key rest :=
  rfl

omit [Ranked κ] in
theorem lookup_eq_none_iff {list : List (κ × ν)} {key : κ} :
    lookup key list = none ↔ key ∉ list.map Prod.fst := by
  constructor
  · intro absent member
    obtain ⟨entry, listed, rfl⟩ := List.mem_map.mp member
    obtain ⟨value, found⟩ := exists_lookup_of_mem listed
    rw [absent] at found
    cases found
  · intro absent
    rw [Option.eq_none_iff_forall_ne_some]
    intro value found
    exact absent (List.mem_map.mpr ⟨_, mem_of_lookup found, rfl⟩)

theorem get?_eq_none_iff {map : OrderedMap κ ν} {key : κ} :
    map.get? key = none ↔ key ∉ map.keys :=
  lookup_eq_none_iff

theorem mem_keys_iff {map : OrderedMap κ ν} {key : κ} :
    key ∈ map.keys ↔ (map.get? key).isSome := by
  cases found : map.get? key with
  | none => simpa using get?_eq_none_iff.mp found
  | some value => simpa [keys] using ⟨value, get?_eq_some_iff.mp found⟩

@[simp] theorem get?_empty (key : κ) : (empty : OrderedMap κ ν).get? key = none := rfl

@[simp] theorem get?_emptyCollection (key : κ) :
    (∅ : OrderedMap κ ν).get? key = none := rfl

@[grind =] theorem get?_insert (map : OrderedMap κ ν) (key other : κ) (value : ν) :
    (map.insert key value).get? other =
      if other = key then some value else map.get? other :=
  lookup_place key other value map.entries

@[simp] theorem get?_insert_self (map : OrderedMap κ ν) (key : κ) (value : ν) :
    (map.insert key value).get? key = some value := by
  simp [get?_insert]

@[grind =] theorem get?_filter (map : OrderedMap κ ν) (keep : κ → ν → Bool) (key : κ) :
    (map.filter keep).get? key = (map.get? key).filter (keep key) := by
  ext value
  simp only [get?_eq_some_iff, filter, List.mem_filter, Option.filter_eq_some_iff]

@[grind =] theorem get?_erase (map : OrderedMap κ ν) (key other : κ) :
    (map.erase key).get? other = if other = key then none else map.get? other := by
  unfold erase
  rw [get?_filter]
  by_cases same : other = key
  · cases map.get? other <;> simp [same]
  · cases map.get? other <;> simp [same]

theorem mem_keys_insert_iff {map : OrderedMap κ ν} {key other : κ} (value : ν) :
    other ∈ (map.insert key value).keys ↔ other = key ∨ other ∈ map.keys := by
  rw [mem_keys_iff, mem_keys_iff, get?_insert]
  by_cases same : other = key
  · simp [same]
  · simp [same]

theorem mem_keys_erase_iff {map : OrderedMap κ ν} {key other : κ} :
    other ∈ (map.erase key).keys ↔ other ≠ key ∧ other ∈ map.keys := by
  rw [mem_keys_iff, mem_keys_iff, get?_erase]
  by_cases same : other = key
  · simp [same]
  · simp [same]

@[grind =] theorem get?_mapValues (map : OrderedMap κ ν) (rewrite : κ → ν → μ) (key : κ) :
    (map.mapValues rewrite).get? key = (map.get? key).map (rewrite key) := by
  unfold get? mapValues
  simp only
  induction map.entries with
  | nil => rfl
  | cons head rest ih =>
      simp only [List.map_cons, lookup]
      split
      · next same => simp [same]
      · exact ih

@[grind =] theorem get?_modify (map : OrderedMap κ ν) (key other : κ) (rewrite : ν → ν) :
    (map.modify key rewrite).get? other =
      if other = key then (map.get? other).map rewrite else map.get? other := by
  unfold modify
  rw [get?_mapValues]
  by_cases same : other = key
  · simp [same]
  · simp [same]

theorem ofList_concat (list : List (κ × ν)) (key : κ) (value : ν) :
    ofList (list ++ [(key, value)]) = (ofList list).insert key value :=
  List.foldl_append ..

/-- Of the values that a list gives to a key, the last one is bound. -/
theorem get?_ofList (list : List (κ × ν)) (key : κ) :
    (ofList list).get? key = lookup key list.reverse := by
  unfold ofList
  rw [← List.foldr_reverse]
  induction list.reverse with
  | nil => rfl
  | cons head rest ih =>
      rw [List.foldr_cons, get?_insert, ih]
      rfl

omit [DecidableEq κ] in
/-- No key is listed twice. -/
theorem nodup_keys (map : OrderedMap κ ν) : map.keys.Nodup :=
  List.pairwise_map.mpr (map.sorted.imp fun before => before.ne)

omit [DecidableEq κ] in
@[simp] theorem keys_mapValues (map : OrderedMap κ ν) (rewrite : κ → ν → μ) :
    (map.mapValues rewrite).keys = map.keys := by
  simp [keys, mapValues, List.map_map, Function.comp_def]

@[simp] theorem keys_modify (map : OrderedMap κ ν) (key : κ) (rewrite : ν → ν) :
    (map.modify key rewrite).keys = map.keys :=
  keys_mapValues map _

@[simp] theorem size_modify (map : OrderedMap κ ν) (key : κ) (rewrite : ν → ν) :
    (map.modify key rewrite).size = map.size := by
  simp [modify, mapValues, size]

theorem contains_iff {map : OrderedMap κ ν} {key : κ} :
    map.contains key = true ↔ ∃ value, map.get? key = some value := by
  simp [contains, Option.isSome_iff_exists]

omit [DecidableEq κ] in
/-- Ascending lists with the same members are the same. -/
theorem entries_ext {first second : List (κ × ν)}
    (sorted : first.Pairwise fun a b => Before a.1 b.1)
    (sorted' : second.Pairwise fun a b => Before a.1 b.1)
    (same : ∀ entry, entry ∈ first ↔ entry ∈ second) : first = second := by
  induction first generalizing second with
  | nil =>
      cases second with
      | nil => rfl
      | cons head rest => simpa using (same head).mpr
  | cons head rest ih =>
      cases second with
      | nil => simpa using (same head).mp
      | cons head' rest' =>
          rw [List.pairwise_cons] at sorted sorted'
          have heads : head = head' := by
            rcases List.mem_cons.mp ((same head).mp List.mem_cons_self) with equal | later
            · exact equal
            · rcases List.mem_cons.mp ((same head').mpr List.mem_cons_self) with equal | later'
              · exact equal.symm
              · exact absurd ((sorted.1 _ later').trans (sorted'.1 _ later))
                  (Before.irrefl _)
          subst heads
          congr 1
          refine ih sorted.2 sorted'.2 fun entry => ?_
          constructor
          · intro member
            rcases List.mem_cons.mp ((same entry).mp (List.mem_cons_of_mem _ member))
              with equal | later
            · exact absurd (equal ▸ sorted.1 _ member) (Before.irrefl _)
            · exact later
          · intro member
            rcases List.mem_cons.mp ((same entry).mpr (List.mem_cons_of_mem _ member))
              with equal | later
            · exact absurd (equal ▸ sorted'.1 _ member) (Before.irrefl _)
            · exact later

/-- Maps that answer every look-up alike are equal. -/
theorem ext_get? {first second : OrderedMap κ ν}
    (same : ∀ key, first.get? key = second.get? key) : first = second :=
  eq_of_entries_eq <| entries_ext first.sorted second.sorted fun (key, value) => by
    rw [← get?_eq_some_iff, ← get?_eq_some_iff, same]

/-- Taking out a binding that was not there before restores the map. -/
theorem erase_insert {map : OrderedMap κ ν} {key : κ} (value : ν)
    (absent : map.get? key = none) : (map.insert key value).erase key = map :=
  ext_get? fun other => by
    rw [get?_erase, get?_insert]
    by_cases same : other = key
    · simp [same, absent]
    · simp [same]

/-- Binding a key to the value that it has already changes nothing. -/
theorem insert_of_get? {map : OrderedMap κ ν} {key : κ} {value : ν}
    (bound : map.get? key = some value) : map.insert key value = map :=
  ext_get? fun other => by
    rw [get?_insert]
    by_cases same : other = key
    · simp [same, bound]
    · simp [same]

/-- Taking a binding out before the key is bound anew makes no difference. -/
theorem insert_erase (map : OrderedMap κ ν) (key : κ) (value : ν) :
    (map.erase key).insert key value = map.insert key value :=
  ext_get? fun other => by
    rw [get?_insert, get?_insert, get?_erase]
    by_cases same : other = key
    · simp [same]
    · simp [same]

/-- Rewriting the value of a bound key is binding it to the new value. -/
theorem modify_of_get? {map : OrderedMap κ ν} {key : κ} {value : ν} (rewrite : ν → ν)
    (bound : map.get? key = some value) :
    map.modify key rewrite = map.insert key (rewrite value) :=
  ext_get? fun other => by
    rw [get?_modify, get?_insert]
    by_cases same : other = key
    · simp [same, bound]
    · simp [same]

/-! ## Rewriting all values -/

omit [DecidableEq κ] in
theorem values_mapValues (map : OrderedMap κ ν) (rewrite : ν → μ) :
    (map.mapValues fun _ => rewrite).values = map.values.map rewrite := by
  unfold values mapValues
  rw [List.map_map, List.map_map]
  rfl

theorem mapValues_insert (map : OrderedMap κ ν) (rewrite : κ → ν → μ) (key : κ) (value : ν) :
    (map.insert key value).mapValues rewrite =
      (map.mapValues rewrite).insert key (rewrite key value) :=
  ext_get? fun other => by
    rw [get?_mapValues, get?_insert, get?_insert, get?_mapValues]
    by_cases same : other = key
    · simp [same]
    · simp [same]

theorem mapValues_erase (map : OrderedMap κ ν) (rewrite : κ → ν → μ) (key : κ) :
    (map.erase key).mapValues rewrite = (map.mapValues rewrite).erase key :=
  ext_get? fun other => by
    rw [get?_mapValues, get?_erase, get?_erase, get?_mapValues]
    by_cases same : other = key
    · simp [same]
    · simp [same]

/-- Keys are selected alike before and after. -/
theorem mapValues_filter (map : OrderedMap κ ν) (rewrite : κ → ν → μ) (keep : κ → Bool) :
    (map.filter fun key _ => keep key).mapValues rewrite =
      (map.mapValues rewrite).filter fun key _ => keep key :=
  ext_get? fun other => by
    rw [get?_mapValues, get?_filter, get?_filter, get?_mapValues]
    cases map.get? other with
    | none => rfl
    | some value =>
        by_cases kept : keep other = true
        · simp [Option.filter, kept]
        · simp [Option.filter, kept]

/-- Of the bindings of a map, those of one key are one or none. -/
theorem values_filter_key (map : OrderedMap κ ν) (key : κ) :
    (map.filter fun other _ => decide (other = key)).values = (map.get? key).toList := by
  cases found : map.get? key with
  | none =>
      have same : (map.filter fun other _ => decide (other = key)) = empty := by
        apply ext_get?
        intro other
        rw [get?_filter, get?_empty]
        by_cases own : other = key
        · simp [own, found]
        · simp [own]
      rw [same]
      rfl
  | some value =>
      have same : (map.filter fun other _ => decide (other = key)) = empty.insert key value := by
        apply ext_get?
        intro other
        rw [get?_filter, get?_insert, get?_empty]
        by_cases own : other = key
        · simp [own, found]
        · simp [own]
      rw [same]
      rfl

end SwitchAbstraction.OrderedMap
