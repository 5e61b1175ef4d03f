import SwitchAbstraction.Attribute.Id
import SwitchAbstraction.ObjectKey

/-!
# Attribute values

A value is a scalar or a list.  A list travels with a count: the capacity
that a reader offers, or the size that it would have needed.  Values are
written as JSON objects with one member, named for the kind.
-/

namespace SwitchAbstraction

/-- A list with the count that a reader offers or is told. -/
structure SizedList (α : Type) where
  count : UInt32
  items : List α
  deriving DecidableEq

namespace SizedList

variable {α : Type}

/-- The list whose count is its length. -/
def ofItems (items : List α) : SizedList α :=
  ⟨UInt32.ofNat items.length, items⟩

/-- An empty list that offers room for a number of items. -/
def withCapacity (capacity : UInt32) : SizedList α :=
  ⟨capacity, []⟩

/-- The members of a written list. -/
def toJson (ofItem : α → Json) (list : SizedList α) : Json :=
  .object
    [("count", .ofNat list.count.toNat), ("items", .ofList ofItem list.items)]

/-- Reads a list; its count is whatever was written. -/
def ofJson? (item? : Json → Option α) (json : Json) : Option (SizedList α) := do
  match ← json.fields? ["count", "items"] with
  | [count, items] => return ⟨← count.uint32?, ← items.list? item?⟩
  | _ => none

end SizedList

/-- The value of an attribute. -/
inductive AttrValue
  | bool (value : Bool)
  | u8 (value : UInt8)
  | u16 (value : UInt16)
  | u32 (value : UInt32)
  | s32 (value : Int32)
  | u64 (value : UInt64)
  | mac (value : Mac)
  | ip (value : Ip)
  | oid (value : ObjectId)
  | oidList (list : SizedList ObjectId)
  | u32List (list : SizedList UInt32)
  | s32List (list : SizedList Int32)
  | charData (value : String)
  deriving DecidableEq

/-- Whether a slot took the stored value or was too small for it. -/
inductive Transfer
  | filled
  | overflow (required : UInt32)
  deriving DecidableEq

/--
Copies a stored list into an offered one.  Too small a list stays empty and is
told the size that it would have needed.
-/
def SizedList.fill {α : Type} (offered stored : SizedList α) : SizedList α × Transfer :=
  let required := UInt32.ofNat stored.items.length
  if offered.count < required then (⟨required, []⟩, .overflow required)
  else (⟨required, stored.items⟩, .filled)

namespace AttrValue

/-- The kind of a value. -/
def kind : AttrValue → ValueKind
  | .bool _ => .bool
  | .u8 _ => .u8
  | .u16 _ => .u16
  | .u32 _ => .u32
  | .s32 _ => .s32
  | .u64 _ => .u64
  | .mac _ => .mac
  | .ip _ => .ip
  | .oid _ => .oid
  | .oidList _ => .oidList
  | .u32List _ => .u32List
  | .s32List _ => .s32List
  | .charData _ => .charData

/-- The empty slot of a kind; a list slot offers room for a number of items. -/
def slot (kind : ValueKind) (capacity : UInt32) : AttrValue :=
  match kind with
  | .bool => .bool false
  | .u8 => .u8 0
  | .u16 => .u16 0
  | .u32 => .u32 0
  | .s32 => .s32 0
  | .u64 => .u64 0
  | .mac => .mac .zero
  | .ip => .ip (.v4 .zero)
  | .oid => .oid .null
  | .oidList => .oidList (.withCapacity capacity)
  | .u32List => .u32List (.withCapacity capacity)
  | .s32List => .s32List (.withCapacity capacity)
  | .charData => .charData ""

/-- A list of ids whose count is its length. -/
def ofIds (ids : List ObjectId) : AttrValue :=
  .oidList (.ofItems ids)

/-- The truth value. -/
def bool? : AttrValue → Option Bool
  | .bool value => some value
  | _ => none

/-- The word of 16 bits. -/
def u16? : AttrValue → Option UInt16
  | .u16 value => some value
  | _ => none

/-- The word of 32 bits. -/
def u32? : AttrValue → Option UInt32
  | .u32 value => some value
  | _ => none

/-- The signed word of 32 bits. -/
def s32? : AttrValue → Option Int32
  | .s32 value => some value
  | _ => none

/-- The MAC address. -/
def mac? : AttrValue → Option Mac
  | .mac value => some value
  | _ => none

/-- The object id. -/
def oid? : AttrValue → Option ObjectId
  | .oid value => some value
  | _ => none

/-- The items of a list of object ids. -/
def oids? : AttrValue → Option (List ObjectId)
  | .oidList list => some list.items
  | _ => none

/-- The items of a list of words. -/
def u32s? : AttrValue → Option (List UInt32)
  | .u32List list => some list.items
  | _ => none

/-- The value as a store keeps it: the count of a list is its length. -/
def normalized : AttrValue → AttrValue
  | .oidList list => .oidList (.ofItems list.items)
  | .u32List list => .u32List (.ofItems list.items)
  | .s32List list => .s32List (.ofItems list.items)
  | value => value

/--
Copies a stored value into a slot.  A scalar overwrites any slot; a list needs
a slot of its own kind.
-/
def fill? (slot stored : AttrValue) : Option (AttrValue × Transfer) :=
  match slot, stored with
  | .oidList offered, .oidList stored =>
      let (list, transfer) := offered.fill stored
      some (.oidList list, transfer)
  | .u32List offered, .u32List stored =>
      let (list, transfer) := offered.fill stored
      some (.u32List list, transfer)
  | .s32List offered, .s32List stored =>
      let (list, transfer) := offered.fill stored
      some (.s32List list, transfer)
  | _, stored => if stored.kind.isList then none else some (stored, .filled)

/-- A signed word as a JSON number. -/
def jsonOfInt32 (value : Int32) : Json :=
  .int value.toInt

/-- A word as a JSON number. -/
def jsonOfUInt32 (value : UInt32) : Json :=
  .ofNat value.toNat

/-- The member name of a kind. -/
def tag : ValueKind → String
  | .bool => "bool"
  | .u8 => "u8"
  | .u16 => "u16"
  | .u32 => "u32"
  | .s32 => "s32"
  | .u64 => "u64"
  | .mac => "mac"
  | .ip => "ip"
  | .oid => "oid"
  | .oidList => "oid_list"
  | .u32List => "u32_list"
  | .s32List => "s32_list"
  | .charData => "char_data"

/-- The value behind the member name of its kind. -/
def payload : AttrValue → Json
  | .bool value => .bool value
  | .u8 value => .ofNat value.toNat
  | .u16 value => .ofNat value.toNat
  | .u32 value => .ofNat value.toNat
  | .s32 value => jsonOfInt32 value
  | .u64 value => .ofNat value.toNat
  | .mac value => .string value.text
  | .ip value => .string value.text
  | .oid value => value.toJson
  | .oidList list => list.toJson ObjectId.toJson
  | .u32List list => list.toJson jsonOfUInt32
  | .s32List list => list.toJson jsonOfInt32
  | .charData value => .string value

/-- A value as a JSON object with one member. -/
def toJson (value : AttrValue) : Json :=
  .object [(tag value.kind, value.payload)]

/-- Reads the value of a kind. -/
def ofPayload? (json : Json) : ValueKind → Option AttrValue
  | .bool => json.bool?.map .bool
  | .u8 => json.uint8?.map .u8
  | .u16 => json.uint16?.map .u16
  | .u32 => json.uint32?.map .u32
  | .s32 => json.int32?.map .s32
  | .u64 => json.uint64?.map .u64
  | .mac => (json.named? Mac.ofText?).map .mac
  | .ip => (json.named? Ip.ofText?).map .ip
  | .oid => (ObjectId.ofJson? json).map .oid
  | .oidList => (SizedList.ofJson? ObjectId.ofJson? json).map .oidList
  | .u32List => (SizedList.ofJson? Json.uint32? json).map .u32List
  | .s32List => (SizedList.ofJson? Json.int32? json).map .s32List
  | .charData => json.string?.map .charData

/-- The kinds of values. -/
def kinds : List ValueKind :=
  [.bool, .u8, .u16, .u32, .s32, .u64, .mac, .ip, .oid, .oidList, .u32List, .s32List,
    .charData]

/-- Reads a value from a JSON object with one member. -/
def ofJson? : Json → Option AttrValue
  | .object [(name, json)] => (kinds.find? fun kind => tag kind = name).bind (ofPayload? json)
  | _ => none

/-- Reads a value from a JSON text. -/
def ofText? (text : String) : Option AttrValue :=
  (Json.ofText? text).bind ofJson?

/-- The JSON text of a value. -/
def text (value : AttrValue) : String :=
  value.toJson.text

/-- The kind of a value and what it holds, for messages. -/
def describe (value : AttrValue) : String :=
  value.kind.name ++ "(" ++ value.payload.text ++ ")"

@[simp] theorem kind_slot (kind : ValueKind) (capacity : UInt32) :
    (slot kind capacity).kind = kind := by
  cases kind <;> rfl

@[simp] theorem kind_normalized (value : AttrValue) : value.normalized.kind = value.kind := by
  cases value <;> rfl

end AttrValue

end SwitchAbstraction
