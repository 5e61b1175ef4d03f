import SwitchAbstraction.Fault
import SwitchAbstraction.Fault.Causes
import SwitchAbstraction.OrderedMap
import SwitchAbstraction.Text

/-!
# Configuration

What a backend reads when it starts: files, the profile with its settings, and
the lane map with the layout of the ports.
-/

namespace SwitchAbstraction

/-!
## Files

The files that a configuration may name, as far as it reads them: each path
either has bytes or does not.
-/

/-- The bytes of the file at a path. -/
def Files := String → Option ByteArray

namespace Files

/-- No files at all. -/
def none : Files :=
  fun _ => .none

/-- One file. -/
def single (path : String) (bytes : ByteArray) : Files :=
  fun other => if other = path then some bytes else .none

/-- The text of the file at a path. -/
def readText (files : Files) (path : String) : Except FileDefect String :=
  match files path with
  | .none => .error .missing
  | some bytes =>
      match String.fromUTF8? bytes with
      | some text => .ok text
      | .none => .error .notText

end Files

/-!
## Profiles

The settings that a backend is started with: keys bound to values, one
binding a line, the last one of a key counting.  A backend sees them through
two accessors, one that looks a key up and one that lists the bindings in key
order from a cursor.
-/

/-- Keys bound to values. -/
abbrev Profile := OrderedMap String String

namespace Profile

/--
The binding on a line: its parts around the first equals sign.  Blanks around
the parts do not count, the key is not empty, and a line that begins with a
hash is a comment.
-/
def binding? (line : List Char) : Option (String × String) :=
  match Text.trim line with
  | [] => none
  | '#' :: _ => none
  | cs =>
      match Text.cut? '=' cs with
      | none => none
      | some (key, value) =>
          if (Text.trim key).isEmpty then none
          else some (String.ofList (Text.trim key), String.ofList (Text.trim value))

/-- Reads the bindings of a text; lines without one are passed over. -/
def parse (text : String) : Profile :=
  OrderedMap.ofList ((Text.lines text.toList).filterMap binding?)

/-- Reads the bindings of a file. -/
def load (files : Files) (path : String) : Except Fault Profile :=
  match files.readText path with
  | .ok text => .ok (parse text)
  | .error defect => .error (.failed (.unreadableProfile path defect))

end Profile

/-- The accessors of a profile, each present or not, with the cursor of the listing. -/
structure Services where
  profile : Profile
  hasValue : Bool
  hasNextValue : Bool
  cursor : UInt64
  deriving DecidableEq

namespace Services

/-- Both accessors of a profile, with the cursor at its first binding. -/
def ofProfile (profile : Profile) : Services :=
  ⟨profile, true, true, 0⟩

/-- No accessors. -/
def none : Services :=
  ⟨∅, false, false, 0⟩

/-- The table without one accessor. -/
def without (services : Services) : Accessor → Services
  | .value => { services with hasValue := false }
  | .nextValue => { services with hasNextValue := false }

/-- Passes a table with both accessors. -/
def validate (services : Services) : Except Fault Unit :=
  if !services.hasValue then .error (.invalid (.accessorMissing .value))
  else if !services.hasNextValue then .error (.invalid (.accessorMissing .nextValue))
  else .ok ()

/-- The value of a key. -/
def value? (services : Services) (key : String) : Option String :=
  if services.hasValue then services.profile.get? key else .none

/--
The binding at the cursor, which moves on by one and wraps around like any word.
A reset moves the cursor to the first binding and gives none.
-/
def next (services : Services) (reset : Bool) : Option (String × String) × Services :=
  if !services.hasNextValue then (.none, services)
  else if reset then (.none, { services with cursor := 0 })
  else
    (services.profile.entries[services.cursor.toNat]?,
      { services with cursor := services.cursor + 1 })

/-- The presence of each accessor, as text. -/
def describe (services : Services) : String :=
  "ServiceMethodTable \x7b " ++ Accessor.value.name ++ ": " ++ toString services.hasValue ++
    ", " ++ Accessor.nextValue.name ++ ": " ++ toString services.hasNextValue ++ " \x7d"

end Services

/-!
## Lane maps

Which hardware lanes each front panel interface uses.  A line gives the name
of an interface, a colon, and its lanes with commas between them.  A line is
passed over if it is malformed, if its name stood on an earlier well-formed
line, or if one of its lanes belongs to an entry already taken.
-/

/-- An interface with its lanes. -/
structure LaneMapEntry where
  name : String
  lanes : List UInt32
  deriving DecidableEq

/-- The interfaces of a switch in order; there is one port for each. -/
structure LaneMap where
  entries : List LaneMapEntry
  deriving DecidableEq

namespace LaneMap

/-- One written lane, with blanks around it. -/
def lane? (cs : List Char) : Option UInt32 :=
  (Text.readUnsigned 10 UInt32.size (Text.trim cs)).toOption.map UInt32.ofNat

/-- The entry on a line that is neither blank nor a comment, if it is well formed. -/
def entry? (line : List Char) : Option LaneMapEntry := do
  let (name, lanes) ← Text.cut? ':' line
  let name := Text.trim name
  let lanes ← (Text.pieces (· = ',') lanes).mapM lane?
  if name.isEmpty then none else some ⟨String.ofList name, lanes⟩

/-- The entry on a line; blank lines and those that begin with a hash or semicolon have none. -/
def lineEntry? (line : List Char) : Option LaneMapEntry :=
  match Text.trim line with
  | [] => none
  | '#' :: _ => none
  | ';' :: _ => none
  | cs => entry? cs

/-- What has been read so far: the names met, the lanes in use and the entries taken. -/
structure Reading where
  names : List String
  lanes : List UInt32
  entries : List LaneMapEntry

namespace Reading

/-- Nothing read. -/
def start : Reading :=
  ⟨[], [], []⟩

/-- Takes an entry unless its name was met or one of its lanes is in use. -/
def add (reading : Reading) (entry : LaneMapEntry) : Reading :=
  if entry.name ∈ reading.names then reading
  else if entry.lanes.any fun lane => lane ∈ reading.lanes then
    { reading with names := entry.name :: reading.names }
  else
    { names := entry.name :: reading.names
      lanes := entry.lanes ++ reading.lanes
      entries := reading.entries ++ [entry] }

end Reading

/-- Reads the entries of a text. -/
def parse (text : String) : LaneMap :=
  ⟨(((Text.lines text.toList).filterMap lineEntry?).foldl Reading.add .start).entries⟩

/-- Reads the entries of a file. -/
def load (files : Files) (path : String) : Except SettingsDefect LaneMap :=
  match files.readText path with
  | .ok text => .ok (parse text)
  | .error defect => .error (.unreadableFile path defect)

/-- The number of ports in a uniform layout. -/
def uniformPorts : Nat :=
  32

/-- The number of lanes of each port in a uniform layout. -/
def lanesPerPort : Nat :=
  4

/-- Ports of four consecutive lanes each, named for the lane they begin with. -/
def uniform (firstLane : Nat) : LaneMap :=
  ⟨(List.range uniformPorts).map fun port =>
    { name := "Ethernet" ++ Text.decimal (port * lanesPerPort)
      lanes := (List.range lanesPerPort).map fun lane =>
        UInt32.ofNat (firstLane + port * lanesPerPort + lane) }⟩

end LaneMap

end SwitchAbstraction
