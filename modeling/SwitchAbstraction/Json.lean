import SwitchAbstraction.Text

/-!
# JSON values

The values that channel messages, attribute values and structural keys are
written as, and their compact written form: no blanks, members in the given
order, and no escape that is not needed.
-/

namespace SwitchAbstraction

/-- A JSON value. -/
inductive Json
  | null
  | bool (value : Bool)
  | int (value : Int)
  | string (value : String)
  | array (items : List Json)
  | object (members : List (String × Json))
  /--
  A value that is valid but that nothing in this library is written as: a
  number with a fraction, an exponent or a minus zero, a string whose escapes
  do not pair up, or an object with such a string for a key.
  -/
  | unreadable

namespace Json

/-- The escape, or the character itself, that stands for a character in a string. -/
def escape (c : Char) : List Char :=
  if c = '"' then ['\\', '"']
  else if c = '\\' then ['\\', '\\']
  else if c = '\x08' then ['\\', 'b']
  else if c = '\x09' then ['\\', 't']
  else if c = '\x0a' then ['\\', 'n']
  else if c = '\x0c' then ['\\', 'f']
  else if c = '\x0d' then ['\\', 'r']
  else if c.toNat < 0x20 then
    ['\\', 'u', '0', '0'] ++ Text.hexByte (UInt8.ofNat c.toNat)
  else [c]

/-- A string between quotes. -/
def writeString (value : String) : List Char :=
  '"' :: (value.toList.flatMap escape ++ ['"'])

/-- An integer in decimal. -/
def writeInt : Int → List Char
  | .ofNat n => Text.digits 10 n
  | .negSucc n => '-' :: Text.digits 10 (n + 1)

mutual

/-- The compact written form of a value.  Unreadable values are shown as null. -/
def write : Json → List Char
  | .null => ['n', 'u', 'l', 'l']
  | .bool true => ['t', 'r', 'u', 'e']
  | .bool false => ['f', 'a', 'l', 's', 'e']
  | .int value => writeInt value
  | .string value => writeString value
  | .array items => '[' :: (writeItems items ++ [']'])
  | .object members => '\x7b' :: (writeMembers members ++ ['\x7d'])
  | .unreadable => ['n', 'u', 'l', 'l']

/-- Values with commas between them. -/
def writeItems : List Json → List Char
  | [] => []
  | [item] => write item
  | item :: rest => write item ++ ',' :: writeItems rest

/-- Members with commas between them. -/
def writeMembers : List (String × Json) → List Char
  | [] => []
  | [(name, value)] => writeString name ++ ':' :: write value
  | (name, value) :: rest =>
      writeString name ++ ':' :: (write value ++ ',' :: writeMembers rest)

end

/-- The compact text of a value. -/
def text (json : Json) : String :=
  String.ofList json.write

/-!
## Reading parts of JSON values

A record is written as an object.  On reading, members of other names are
passed over, and every expected member stands there exactly once; a record
may also come as an array of exactly its fields in order.  Integers come in
range.
-/

/-- The value of the only member with a name. -/
def onlyMember? (name : String) (members : List (String × Json)) : Option Json :=
  match members.filter fun member => member.1 = name with
  | [(_, value)] => some value
  | _ => none

/-- The fields of a record with the given names, in their order. -/
def fields? (names : List String) : Json → Option (List Json)
  | .object members => names.mapM fun name => onlyMember? name members
  | .array items => if items.length = names.length then some items else none
  | _ => none

/-- The text of a string. -/
def string? : Json → Option String
  | .string value => some value
  | _ => none

/-- A truth value. -/
def bool? : Json → Option Bool
  | .bool value => some value
  | _ => none

/-- A natural number below a limit. -/
def natBelow? (limit : Nat) : Json → Option Nat
  | .int (.ofNat value) => if value < limit then some value else none
  | _ => none

/-- A word of 8 bits. -/
def uint8? (json : Json) : Option UInt8 :=
  (json.natBelow? UInt8.size).map UInt8.ofNat

/-- A word of 16 bits. -/
def uint16? (json : Json) : Option UInt16 :=
  (json.natBelow? UInt16.size).map UInt16.ofNat

/-- A word of 32 bits. -/
def uint32? (json : Json) : Option UInt32 :=
  (json.natBelow? UInt32.size).map UInt32.ofNat

/-- A word of 64 bits. -/
def uint64? (json : Json) : Option UInt64 :=
  (json.natBelow? UInt64.size).map UInt64.ofNat

/-- A signed word of 32 bits. -/
def int32? : Json → Option Int32
  | .int value =>
      if (Int32.ofInt value).toInt = value then some (Int32.ofInt value) else none
  | _ => none

/-- The items of an array, each read alike. -/
def list? {α : Type} (item? : Json → Option α) : Json → Option (List α)
  | .array items => items.mapM item?
  | _ => none

/-- A natural number. -/
def ofNat (n : Nat) : Json :=
  .int n

/-- A list, each item written alike. -/
def ofList {α : Type} (ofItem : α → Json) (items : List α) : Json :=
  .array (items.map ofItem)

/-- A word of a vocabulary by its name, through a reader for names. -/
def named? {α : Type} (ofName? : String → Option α) (json : Json) : Option α :=
  json.string?.bind ofName?

end Json

end SwitchAbstraction
