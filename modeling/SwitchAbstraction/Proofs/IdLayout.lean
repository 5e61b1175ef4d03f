import Mathlib.Algebra.Group.Nat.Defs
import SwitchAbstraction.Proofs.Spellings

/-!
# The layout of ids

The word of an object id holds the index of a switch in its upper eight bits,
the number of an object type in the next eight and a counter in the other 48.
No bit is left over, so an id is as good as its parts: parts that are put
together are read off again, and a word that names a type with ids is put
together from what is read off it.
-/

namespace SwitchAbstraction

/-- In a word that is put together from two, the upper one counts in units of the lower one. -/
theorem toNat_append_eq {width more : Nat} (upper : BitVec width) (lower : BitVec more) :
    (upper ++ lower).toNat = upper.toNat * 2 ^ more + lower.toNat := by
  rw [BitVec.toNat_append, ← Nat.shiftLeft_add_eq_or_of_lt lower.isLt, Nat.shiftLeft_eq]

namespace ObjectId

variable {id : ObjectId} {index : UInt8} {type : ObjectType} {counter : Nat}

/-! ## The parts of a word -/

theorem counter_lt (id : ObjectId) : id.counter < counterLimit :=
  Nat.mod_lt _ (by decide)

theorem typeNumber_lt (id : ObjectId) : id.typeNumber < 256 :=
  Nat.mod_lt _ (by decide)

/-- What stands above the counter and the type fits into the bits of an index. -/
theorem toNat_switchIndex (id : ObjectId) :
    id.switchIndex.toNat = id.raw.toNat / counterLimit / 256 := by
  have range := id.raw.toNat_lt
  unfold switchIndex counterLimit
  exact UInt8.toNat_ofNat_of_lt' (by unfold UInt8.size; omega)

/-- Every word is its three parts side by side, whatever its type bits say. -/
theorem toNat_raw (id : ObjectId) :
    id.raw.toNat = (id.switchIndex.toNat * 256 + id.typeNumber) * counterLimit + id.counter := by
  rw [toNat_switchIndex]
  unfold typeNumber ObjectId.counter
  rw [Nat.div_add_mod', Nat.div_add_mod']

/-- The parts of a word take eight, eight and 48 of its bits. -/
theorem toBitVec_raw (id : ObjectId) :
    id.raw.toBitVec =
      id.switchIndex.toBitVec ++ BitVec.ofNat 8 id.typeNumber ++ BitVec.ofNat 48 id.counter := by
  have number : (BitVec.ofNat 8 id.typeNumber).toNat = id.typeNumber :=
    Nat.mod_eq_of_lt id.typeNumber_lt
  have own : (BitVec.ofNat 48 id.counter).toNat = id.counter :=
    Nat.mod_eq_of_lt id.counter_lt
  apply BitVec.eq_of_toNat_eq
  rw [toNat_append_eq, toNat_append_eq, number, own]
  exact toNat_raw id

/-! ## Putting parts together -/

/-- The parts of a word that names a type are put together to that word. -/
theorem compose_parts (typed : id.type? = some type) :
    compose id.switchIndex type id.counter = id := by
  have number : type.number = id.typeNumber := ObjectType.number_of_ofNumber? typed
  unfold compose
  rw [number, ← toNat_raw, UInt64.ofNat_toNat]

/-- Putting parts together undoes reading them off, and the other way round. -/
theorem encode_eq_ok_iff :
    encode index type counter = .ok id ↔
      type.isIdAddressed = true ∧
        id.switchIndex = index ∧ id.type? = some type ∧ id.counter = counter := by
  constructor
  · intro encoded
    by_cases addressed : type.isIdAddressed = true
    · by_cases fits : counter < counterLimit
      · rw [encode_of_lt addressed fits] at encoded
        cases encoded
        exact ⟨addressed, switchIndex_compose fits, type?_compose fits, counter_compose fits⟩
      · rw [encode_of_not_lt addressed (Nat.not_lt.mp fits)] at encoded
        cases encoded
    · unfold encode at encoded
      simp [addressed] at encoded
  · rintro ⟨addressed, rfl, typed, rfl⟩
    -- The counter of a word always fits, so only the type can stand in the way.
    rw [encode_of_lt addressed id.counter_lt, compose_parts typed]

theorem exists_encode_iff :
    (∃ id, encode index type counter = .ok id) ↔
      type.isIdAddressed = true ∧ counter < counterLimit := by
  constructor
  · rintro ⟨id, encoded⟩
    obtain ⟨addressed, _, _, rfl⟩ := encode_eq_ok_iff.mp encoded
    exact ⟨addressed, id.counter_lt⟩
  · rintro ⟨addressed, fits⟩
    exact ⟨_, encode_of_lt addressed fits⟩

/-- An index is a counter that fits, so switches have ids like any other object. -/
theorem encode_switch (index : UInt8) :
    encode index .switch index.toNat = .ok (ofSwitchIndex index) := by
  have range := index.toNat_lt
  exact encode_of_lt rfl (by unfold counterLimit; omega)

/--
An index, a type and a counter are put together into an id exactly if the type
is one with ids and the counter has no more than 48 bits.  The id then holds
them side by side, and they are what is read off it; it names something, its
switch is the one with the index, and its text is read as the id.  Conversely,
each word that names a type with ids is put together from what is read off it.
The id of a switch has the index of the switch as its counter.
-/
theorem ids_are_put_together_from_parts (index : UInt8) (type : ObjectType) (counter : Nat)
    (id : ObjectId) :
    ((∃ made, encode index type counter = .ok made) ↔
      type.isIdAddressed = true ∧ counter < 2 ^ 48) ∧
    (encode index type counter = .ok id →
      id.raw.toBitVec =
          index.toBitVec ++ BitVec.ofNat 8 type.number ++ BitVec.ofNat 48 counter ∧
        id.switchIndex = index ∧ id.type? = some type ∧ id.counter = counter ∧
        id.isNull = false ∧ id.switchId = ofSwitchIndex index ∧ parse id.text = .ok id) ∧
    (id.type? = some type → type.isIdAddressed = true →
      encode id.switchIndex type id.counter = .ok id) ∧
    encode index .switch index.toNat = .ok (ofSwitchIndex index) := by
  refine ⟨exists_encode_iff, fun encoded => ?_, fun typed addressed => ?_, encode_switch index⟩
  · obtain ⟨addressed, rfl, typed, rfl⟩ := encode_eq_ok_iff.mp encoded
    have layout := id.toBitVec_raw
    rw [← ObjectType.number_of_ofNumber? typed] at layout
    exact ⟨layout, rfl, typed, rfl, isNull_eq_false typed addressed, rfl, parse_text id⟩
  · exact encode_eq_ok_iff.mpr ⟨addressed, rfl, typed, rfl⟩

/-- The last index, the type behind the gap in the numbering and the last counter. -/
theorem last_id_is_put_together :
    encode 255 .debugCounter 0xffffffffffff = .ok ⟨0xff50ffffffffffff⟩ ∧
      ObjectId.counter ⟨0xff50ffffffffffff⟩ = 0xffffffffffff ∧
      parse (text ⟨0xff50ffffffffffff⟩) = .ok ⟨0xff50ffffffffffff⟩ ∧
      type? ⟨0xff50ffffffffffff⟩ = some .debugCounter ∧
      encode (switchIndex ⟨0xff50ffffffffffff⟩) .debugCounter
        (ObjectId.counter ⟨0xff50ffffffffffff⟩) = .ok ⟨0xff50ffffffffffff⟩ := by
  have encoded : encode 255 .debugCounter 0xffffffffffff = .ok ⟨0xff50ffffffffffff⟩ := by
    decide +kernel
  obtain ⟨_, decoded, recovered, _⟩ := ids_are_put_together_from_parts 255 .debugCounter
    0xffffffffffff ⟨0xff50ffffffffffff⟩
  obtain ⟨_, _, typed, counter, _, _, read⟩ := decoded encoded
  exact ⟨encoded, counter, read, typed, recovered typed rfl⟩

end ObjectId

end SwitchAbstraction
