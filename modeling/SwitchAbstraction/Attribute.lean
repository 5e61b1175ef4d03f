import SwitchAbstraction.Attribute.Value

/-!
# Attributes

Attributes one by one, as calls carry them, and those of an object, as a
switch stores them.
-/

namespace SwitchAbstraction

/-!
## Single attributes

An attribute id with a value.  The same pair serves as a value to write and as
a slot to read into.
-/

/-- An attribute id with a value, which need not be of the declared kind. -/
structure Attribute where
  id : AttrId
  value : AttrValue
  deriving DecidableEq

namespace Attribute

/-- The empty slot of an attribute. -/
def request (id : AttrId) (capacity : UInt32) : Attribute :=
  ⟨id, .slot id.kind capacity⟩

/-- Whether the value is of the declared kind. -/
def hasDeclaredKind (attr : Attribute) : Bool :=
  attr.value.kind = attr.id.kind

/-- The members of the record. -/
def toJson (attr : Attribute) : Json :=
  .object [("id", .string attr.id.name), ("value", attr.value.toJson)]

/-- Reads the record. -/
def ofJson? (json : Json) : Option Attribute := do
  match ← json.fields? ["id", "value"] with
  | [id, value] => return ⟨← id.named? (Vocabulary.ofName? AttrId), ← AttrValue.ofJson? value⟩
  | _ => none

/-- The first value of an attribute in a list. -/
def find? (attrs : List Attribute) (id : AttrId) : Option AttrValue :=
  (attrs.find? fun attr => attr.id = id).map Attribute.value

/-- The attributes of a request, as a message carries them. -/
def toFields (attrs : List Attribute) : List (String × String) :=
  attrs.map fun attr => (attr.id.name, attr.value.text)

end Attribute

/-!
## The attributes of an object

A stored object is its attributes, bound to their ids.  A list among them is
stored with its length as its count.
-/

/-- The attributes of one object, in the order of their ids. -/
abbrev Attributes := OrderedMap AttrId AttrValue

namespace Attributes

/-- Attributes as they are stored.  Of an id given twice the last value counts. -/
def ofList (attrs : List Attribute) : Attributes :=
  OrderedMap.ofList (attrs.map fun attr => (attr.id, attr.value.normalized))

/-- The attributes in a list. -/
def toList (attrs : Attributes) : List Attribute :=
  attrs.entries.map fun entry => ⟨entry.1, entry.2⟩

/-- The object id stored for an attribute. -/
def oid? (attrs : Attributes) (id : AttrId) : Option ObjectId :=
  (attrs.get? id).bind AttrValue.oid?

/-- The signed word stored for an attribute. -/
def s32? (attrs : Attributes) (id : AttrId) : Option Int32 :=
  (attrs.get? id).bind AttrValue.s32?

/-- The word of 32 bits stored for an attribute. -/
def u32? (attrs : Attributes) (id : AttrId) : Option UInt32 :=
  (attrs.get? id).bind AttrValue.u32?

/-- The word of 16 bits stored for an attribute. -/
def u16? (attrs : Attributes) (id : AttrId) : Option UInt16 :=
  (attrs.get? id).bind AttrValue.u16?

/-- The MAC address stored for an attribute. -/
def mac? (attrs : Attributes) (id : AttrId) : Option Mac :=
  (attrs.get? id).bind AttrValue.mac?

end Attributes

end SwitchAbstraction
