import SwitchAbstraction.Fault

/-!
# Checks on names, ids and keys

Reading a name, an id, an address or a key, building an id, and using an id
as a given type: each with the cause for which it is refused.
-/

namespace SwitchAbstraction

/-- Reads a word of a vocabulary. -/
def Vocabulary.parse (α : Type) [Vocabulary α] (text : String) : Except Fault α :=
  match ofName? α text with
  | some word => .ok word
  | none => .error (.invalid (.unknownWord (label α) text))

namespace ObjectId

/-- Reads an id. -/
def parse (text : String) : Except Fault ObjectId :=
  match ofText? text with
  | some id => .ok id
  | none => .error (.invalid (.malformed .objectId text))

/-- The id with a switch index, an id-addressed type and a counter below the limit. -/
def encode (index : UInt8) (type : ObjectType) (counter : Nat) : Except Fault ObjectId :=
  if !type.isIdAddressed then .error (.invalid (.notAnIdType type))
  else if counterLimit ≤ counter then .error (.failed .countersExhausted)
  else .ok (compose index type counter)

/-- Parts that fit are put together into an id. -/
theorem encode_of_lt {index : UInt8} {type : ObjectType} {counter : Nat}
    (addressed : type.isIdAddressed = true) (fits : counter < counterLimit) :
    encode index type counter = .ok (compose index type counter) := by
  simp [encode, addressed, Nat.not_le.mpr fits]

theorem encode_of_not_lt {index : UInt8} {type : ObjectType} {counter : Nat}
    (addressed : type.isIdAddressed = true) (short : counterLimit ≤ counter) :
    encode index type counter = .error (.failed .countersExhausted) := by
  simp [encode, addressed, short]

/-- Passes an id that names something of the expected type. -/
def expectType (id : ObjectId) (expected : ObjectType) : Except Fault Unit :=
  if id.isNull then .error (.invalid (.nullIdAs expected))
  else
    match id.type? with
    | some actual =>
        if actual = expected then .ok ()
        else .error (.invalidId (.wrongType id actual expected))
    | none => .error (.invalidId (.unknownType id))

end ObjectId

/-- Reads a MAC address. -/
def Mac.parse (text : String) : Except Fault Mac :=
  match ofText? text with
  | some mac => .ok mac
  | none => .error (.invalid (.malformed .macAddress text))

namespace IpNetwork

/-- The fault of a text or of parts that form no network. -/
def Defect.toFault : Defect → Fault
  | .malformed text => .invalid (.malformed .ipNetwork text)
  | .tooLong length address => .invalid (.networkTooLong length address)

end IpNetwork

namespace ObjectKey

/-- The key of the object that an id names. -/
def ofId (id : ObjectId) : Except Fault ObjectKey :=
  match id.type? with
  | some .null => .error (.invalid .nullId)
  | some type =>
      if type.isIdAddressed then .ok (.object id)
      else .error (.invalidId (.namesNoObject id))
  | none => .error (.invalidId (.namesNoObject id))

/-- The key of the object that an id names, if the id is of the expected type. -/
def ofTypedId (type : ObjectType) (id : ObjectId) : Except Fault ObjectKey := do
  id.expectType type
  ofId id

/-- Reads the record of an entry. -/
def ofRecord? (type : ObjectType) (json : Json) : Option ObjectKey :=
  match type with
  | .fdbEntry => (FdbKey.ofJson? json).map .fdb
  | .routeEntry => (RouteKey.ofJson? json).map .route
  | .neighborEntry => (NeighborKey.ofJson? json).map .neighbor
  | _ => none

/-- Reads the part of a key that follows its type. -/
def parseId (type : ObjectType) (text : String) : Except Fault ObjectKey :=
  if type = .fdbEntry ∨ type = .routeEntry ∨ type = .neighborEntry then
    match (Json.ofText? text).bind (ofRecord? type) with
    | some key => .ok key
    | none => .error (.invalid (.undecodableKey type))
  else if type.isIdAddressed then do
    let id ← ObjectId.parse text
    id.expectType type
    return .object id
  else .error (.notImplemented (.keysOf type))

/-- Reads a key. -/
def parse (text : String) : Except Fault ObjectKey :=
  match Text.cut? ':' text.toList with
  | none => .error (.invalid (.malformed .objectKey text))
  | some (type, id) => do
      let type ← Vocabulary.parse ObjectType (String.ofList type)
      parseId type (String.ofList id)

end ObjectKey

namespace Attribute

/-- Passes an attribute whose value is of the declared kind. -/
def checkKind (attr : Attribute) : Except Fault Unit :=
  if attr.hasDeclaredKind then .ok ()
  else .error (.invalid (.kindMismatch attr.id attr.value.kind))

/-- Reads one field of a message as an attribute with its value. -/
def ofField (field : String × String) : Except Fault Attribute :=
  match Vocabulary.parse AttrId field.1 with
  | .error fault => .error fault
  | .ok id =>
      match AttrValue.ofText? field.2 with
      | some value => .ok ⟨id, value⟩
      | none => .error (.invalid (.undecodableValue field.1))

/-- Reads the fields of a message as attributes, up to the first that is none. -/
def ofFields (fields : List (String × String)) : Except Fault (List Attribute) :=
  fields.mapM ofField

/-- Copies a stored value into a slot. -/
def fill (slot stored : AttrValue) : Except Fault (AttrValue × Transfer) :=
  match slot.fill? stored with
  | some filled => .ok filled
  | none => .error (.invalid (.slotMismatch slot.kind stored.kind))

end Attribute

/--
Reads the number that a name is set to.  The whole text of the setting is
kept for the message, even where only part of it holds the digits.
-/
def Text.parseNumber (name : String) (limit : Nat) (text : String) (digits : List Char) :
    Except Fault Nat :=
  match readUnsigned 10 limit digits with
  | .ok value => .ok value
  | .error defect => .error (.invalid (.malformedNumber name text defect))

end SwitchAbstraction
