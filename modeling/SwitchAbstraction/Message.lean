import SwitchAbstraction.Checks

/-!
# Channel messages

What travels on the channels between a backend and its peers: an operation, a
key and named fields.  On the wire a message is a list of texts, the key
first, then the operation, then names and values in turn; as a payload that
list is a JSON array of strings.
-/

namespace SwitchAbstraction

/-- A field of a message: its name and its value. -/
abbrev Field := String × String

/-- An operation on a key, with fields in order.  Field names may repeat. -/
structure Message where
  op : String
  key : String
  fields : List Field
  deriving DecidableEq

namespace Message

/-- The first value of a field. -/
def field? (message : Message) (name : String) : Option String :=
  (message.fields.find? fun field => field.1 = name).map Prod.snd

/-- Names and values in turn. -/
def flatten : List Field → List String
  | [] => []
  | (name, value) :: rest => name :: value :: flatten rest

/-- Pairs texts up as names and values, if their number is even. -/
def unflatten? : List String → Option (List Field)
  | [] => some []
  | [_] => none
  | name :: value :: rest => (unflatten? rest).map ((name, value) :: ·)

/-- The wire form of a message. -/
def toWire (message : Message) : List String :=
  message.key :: message.op :: flatten message.fields

/-- Reads the wire form of a message. -/
def ofWire : List String → Except Fault Message
  | key :: op :: rest =>
      match unflatten? rest with
      | some fields => .ok ⟨op, key, fields⟩
      | none => .error (.invalid (.danglingField key))
  | _ => .error (.invalid .messageTooShort)

/-- The payload of a message. -/
def encode (message : Message) : String :=
  (Json.ofList .string message.toWire).text

/-- Reads the payload of a message. -/
def decode (payload : String) : Except Fault Message :=
  match (Json.ofText? payload).bind (Json.list? Json.string?) with
  | some wire => ofWire wire
  | none => .error (.invalid .undecodablePayload)

@[simp] theorem unflatten?_flatten (fields : List Field) :
    unflatten? (flatten fields) = some fields := by
  induction fields with
  | nil => rfl
  | cons field rest ih => simp [flatten, unflatten?, ih]

/-- Reading the wire form of a message gives the message back. -/
@[simp] theorem ofWire_toWire (message : Message) : ofWire message.toWire = .ok message := by
  simp [toWire, ofWire]

end Message

end SwitchAbstraction
