import SwitchAbstraction.ObjectType
import SwitchAbstraction.OrderedMap
import SwitchAbstraction.Text

/-!
# Object ids

An object id is a word of 64 bits: eight bits of switch index, eight bits of
object type and 48 bits of a counter.  The id of a switch carries the switch
index as its counter too, so the owner of an object is known from the
object's id alone.
-/

namespace SwitchAbstraction

/-- An object id, kept as its raw word. -/
structure ObjectId where
  raw : UInt64
  deriving DecidableEq

namespace ObjectId

/-- The number of counters that an id can carry, those of 48 bits. -/
def counterLimit : Nat :=
  0x1000000000000

/-- The id that names nothing. -/
def null : ObjectId :=
  ⟨0⟩

/-- Whether the id names nothing. -/
def isNull (id : ObjectId) : Bool :=
  id = null

/-- The id with a switch index, an object type and a counter below the limit. -/
def compose (index : UInt8) (type : ObjectType) (counter : Nat) : ObjectId :=
  ⟨UInt64.ofNat ((index.toNat * 256 + type.number) * counterLimit + counter)⟩

/-- The counter of an id. -/
def counter (id : ObjectId) : Nat :=
  id.raw.toNat % counterLimit

/-- The number in the type bits of an id. -/
def typeNumber (id : ObjectId) : Nat :=
  id.raw.toNat / counterLimit % 256

/-- The index of the switch that owns the object. -/
def switchIndex (id : ObjectId) : UInt8 :=
  UInt8.ofNat (id.raw.toNat / counterLimit / 256)

/-- The type in the type bits, if they name one. -/
def type? (id : ObjectId) : Option ObjectType :=
  ObjectType.ofNumber? id.typeNumber

/-- The id of the switch with an index. -/
def ofSwitchIndex (index : UInt8) : ObjectId :=
  compose index .switch index.toNat

/-- The id of the switch that owns the object. -/
def switchId (id : ObjectId) : ObjectId :=
  ofSwitchIndex id.switchIndex

/-- The text of an id. -/
def text (id : ObjectId) : String :=
  "oid:0x" ++ Text.hexadecimal id.raw.toNat

/-- The text of an id with its type in front, if it has one. -/
def describe (id : ObjectId) : String :=
  match id.type? with
  | some type => type.name ++ "(" ++ id.text ++ ")"
  | none => "ObjectId(" ++ id.text ++ ")"

/-- Reads the text of an id. -/
def ofText? (text : String) : Option ObjectId :=
  match text.toList with
  | 'o' :: 'i' :: 'd' :: ':' :: '0' :: 'x' :: cs =>
      (Text.readUnsigned 16 UInt64.size cs).toOption.map fun value => ⟨UInt64.ofNat value⟩
  | _ => none

/-- Ids are ordered as words. -/
instance : Ranked ObjectId where
  rank id := [id.raw.toNat]
  rank_injective {first second} same := by
    cases first
    cases second
    simpa [UInt64.toNat_inj] using same

/-- The word of a composed id holds its three parts side by side. -/
theorem toNat_raw_compose {index : UInt8} {type : ObjectType} {counter : Nat}
    (fits : counter < counterLimit) :
    (compose index type counter).raw.toNat =
      (index.toNat * 256 + type.number) * counterLimit + counter := by
  have := index.toNat_lt
  have := type.number_lt
  unfold compose
  rw [UInt64.toNat_ofNat']
  unfold counterLimit at fits ⊢
  exact Nat.mod_eq_of_lt (by omega)

theorem counter_compose {index : UInt8} {type : ObjectType} {counter : Nat}
    (fits : counter < counterLimit) :
    (compose index type counter).counter = counter := by
  have := type.number_lt
  unfold ObjectId.counter
  rw [toNat_raw_compose fits]
  unfold counterLimit at fits ⊢
  omega

theorem type?_compose {index : UInt8} {type : ObjectType} {counter : Nat}
    (fits : counter < counterLimit) :
    (compose index type counter).type? = some type := by
  have := type.number_lt
  have number : (compose index type counter).typeNumber = type.number := by
    unfold typeNumber
    rw [toNat_raw_compose fits]
    unfold counterLimit at fits ⊢
    omega
  unfold type?
  rw [number, ObjectType.ofNumber?_number]

theorem switchIndex_compose {index : UInt8} {type : ObjectType} {counter : Nat}
    (fits : counter < counterLimit) :
    (compose index type counter).switchIndex = index := by
  have := type.number_lt
  have := index.toNat_lt
  unfold switchIndex
  rw [toNat_raw_compose fits]
  have quotient : ((index.toNat * 256 + type.number) * counterLimit + counter) / counterLimit /
      256 = index.toNat := by
    unfold counterLimit at fits ⊢
    omega
  rw [quotient, UInt8.ofNat_toNat]

/-- The index of a switch is read off its id. -/
@[simp] theorem switchIndex_ofSwitchIndex (index : UInt8) :
    (ofSwitchIndex index).switchIndex = index := by
  have := index.toNat_lt
  exact switchIndex_compose (by unfold counterLimit; omega)

@[simp] theorem type?_ofSwitchIndex (index : UInt8) :
    (ofSwitchIndex index).type? = some .switch := by
  have := index.toNat_lt
  exact type?_compose (by unfold counterLimit; omega)

end ObjectId

end SwitchAbstraction
