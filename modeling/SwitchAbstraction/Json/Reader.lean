import SwitchAbstraction.Json

/-!
# Reading JSON

A text is read as one value with blanks around it.  Every step takes at least
one character, so as many steps as there are characters are enough for any
text; values may nest to any depth.
-/

namespace SwitchAbstraction.Json

/-- The blanks between the tokens of a JSON text. -/
def isBlank (c : Char) : Bool :=
  c = ' ' || c = '\t' || c = '\n' || c = '\r'

/-- The text from its first character that is no blank. -/
def skipBlanks (cs : List Char) : List Char :=
  cs.dropWhile isBlank

/-- The rest of a text that begins with a word. -/
def skipWord? : List Char → List Char → Option (List Char)
  | [], cs => some cs
  | w :: word, c :: cs => if w = c then skipWord? word cs else none
  | _ :: _, [] => none

/-- The value of four hexadecimal digits. -/
def hexQuad? (a b c d : Char) : Option Nat := do
  let a ← Text.digit? 16 a
  let b ← Text.digit? 16 b
  let c ← Text.digit? 16 c
  let d ← Text.digit? 16 d
  return ((a * 16 + b) * 16 + c) * 16 + d

/-- The character that a one-letter escape stands for. -/
def unescape? (c : Char) : Option Char :=
  if c = '"' || c = '\\' || c = '/' then some c
  else if c = 'b' then some '\x08'
  else if c = 'f' then some '\x0c'
  else if c = 'n' then some '\n'
  else if c = 'r' then some '\r'
  else if c = 't' then some '\t'
  else none

/--
The code values of a string behind its opening quote, and the rest behind its
closing quote.  Control characters have to be escaped.
-/
def readUnits : List Char → Option (List Nat × List Char)
  | [] => none
  | '"' :: cs => some ([], cs)
  | '\\' :: 'u' :: a :: b :: c :: d :: cs => do
      let unit ← hexQuad? a b c d
      let (units, rest) ← readUnits cs
      return (unit :: units, rest)
  | '\\' :: e :: cs => do
      let c ← unescape? e
      let (units, rest) ← readUnits cs
      return (c.toNat :: units, rest)
  | c :: cs =>
      if c = '\\' ∨ c.toNat < 0x20 then none
      else do
        let (units, rest) ← readUnits cs
        return (c.toNat :: units, rest)

/-- Whether a code value opens a surrogate pair. -/
def isLeading (unit : Nat) : Bool :=
  0xd800 ≤ unit && unit < 0xdc00

/-- Whether a code value closes a surrogate pair. -/
def isTrailing (unit : Nat) : Bool :=
  0xdc00 ≤ unit && unit < 0xe000

/-- The characters of a list of code values, if its surrogates pair up. -/
def pairUp : List Nat → Option (List Char)
  | [] => some []
  | unit :: units =>
      if isLeading unit then
        match units with
        | [] => none
        | trailing :: units =>
            if isTrailing trailing then
              (pairUp units).map
                (Char.ofNat ((unit - 0xd800) * 1024 + (trailing - 0xdc00) + 0x10000) :: ·)
            else none
      else if isTrailing unit then none
      else (pairUp units).map (Char.ofNat unit :: ·)

/-- A string behind its opening quote; no text if its surrogates do not pair up. -/
def readText (cs : List Char) : Option (Option String × List Char) := do
  let (units, cs) ← readUnits cs
  return ((pairUp units).map String.ofList, cs)

/-- The longest run of decimal digits and the rest. -/
def spanDigits (cs : List Char) : List Char × List Char :=
  cs.span Char.isDigit

/-- The value of decimal digits. -/
def ofDigits (ds : List Char) : Nat :=
  ds.foldl (fun value d => value * 10 + (d.toNat - '0'.toNat)) 0

/-- Whether a text begins with a fraction, and the rest behind it. -/
def skipFraction? : List Char → Option (Bool × List Char)
  | '.' :: cs =>
      match spanDigits cs with
      | ([], _) => none
      | (_, rest) => some (true, rest)
  | cs => some (false, cs)

/-- The text behind the sign of an exponent. -/
def skipSign : List Char → List Char
  | '+' :: cs => cs
  | '-' :: cs => cs
  | cs => cs

/-- Whether a text begins with an exponent, and the rest behind it. -/
def skipExponent? : List Char → Option (Bool × List Char)
  | c :: cs =>
      if c = 'e' ∨ c = 'E' then
        match spanDigits (skipSign cs) with
        | ([], _) => none
        | (_, rest) => some (true, rest)
      else some (false, c :: cs)
  | [] => some (false, [])

/-- An integer part: a zero on its own, or digits that begin with another one. -/
def readWhole (cs : List Char) : Option (Nat × List Char) :=
  match spanDigits cs with
  | ([], _) => none
  | ('0' :: _ :: _, _) => none
  | (ds, rest) => some (ofDigits ds, rest)

/-- A number without a sign; a fraction or an exponent makes it unreadable. -/
def readMagnitude (cs : List Char) : Option (Option Nat × List Char) := do
  let (whole, cs) ← readWhole cs
  let (fraction, cs) ← skipFraction? cs
  let (exponent, cs) ← skipExponent? cs
  return (if fraction || exponent then none else some whole, cs)

/-- A number; a minus zero is unreadable. -/
def readNumber : List Char → Option (Json × List Char)
  | '-' :: cs => do
      let (whole, rest) ← readMagnitude cs
      match whole with
      | some (n + 1) => return (.int (.negSucc n), rest)
      | _ => return (.unreadable, rest)
  | cs => do
      let (whole, rest) ← readMagnitude cs
      match whole with
      | some n => return (.int n, rest)
      | none => return (.unreadable, rest)

/-- Members as an object, unless a key is unreadable. -/
def ofMembers (members : List (Option String × Json)) : Json :=
  match members.mapM fun member => member.1.map fun name => (name, member.2) with
  | some members => .object members
  | none => .unreadable

mutual

/-- Reads one value at the start of a text that begins with no blank. -/
def readValue : Nat → List Char → Option (Json × List Char)
  | 0, _ => none
  | _, [] => none
  | fuel + 1, c :: cs =>
      if c = '"' then do
        let (text, cs) ← readText cs
        return ((text.map .string).getD .unreadable, cs)
      else if c = '[' then
        match skipBlanks cs with
        | ']' :: rest => some (.array [], rest)
        | cs => do
            let (items, rest) ← readItems fuel cs
            return (.array items, rest)
      else if c = '\x7b' then
        match skipBlanks cs with
        | '\x7d' :: rest => some (.object [], rest)
        | cs => do
            let (members, rest) ← readMembers fuel cs
            return (ofMembers members, rest)
      else if c = 'n' then
        (skipWord? ['u', 'l', 'l'] cs).map fun rest => (.null, rest)
      else if c = 't' then
        (skipWord? ['r', 'u', 'e'] cs).map fun rest => (.bool true, rest)
      else if c = 'f' then
        (skipWord? ['a', 'l', 's', 'e'] cs).map fun rest => (.bool false, rest)
      else readNumber (c :: cs)

/-- Reads at least one item and the bracket that closes the array. -/
def readItems : Nat → List Char → Option (List Json × List Char)
  | 0, _ => none
  | fuel + 1, cs => do
      let (item, cs) ← readValue fuel cs
      match skipBlanks cs with
      | ']' :: rest => return ([item], rest)
      | ',' :: rest => do
          let (items, rest) ← readItems fuel (skipBlanks rest)
          return (item :: items, rest)
      | _ => none

/-- Reads at least one member and the brace that closes the object. -/
def readMembers : Nat → List Char → Option (List (Option String × Json) × List Char)
  | 0, _ => none
  | fuel + 1, '"' :: cs => do
      let (name, cs) ← readText cs
      match skipBlanks cs with
      | ':' :: cs => do
          let (value, cs) ← readValue fuel (skipBlanks cs)
          match skipBlanks cs with
          | '\x7d' :: rest => return ([(name, value)], rest)
          | ',' :: rest => do
              let (members, rest) ← readMembers fuel (skipBlanks rest)
              return ((name, value) :: members, rest)
          | _ => none
      | _ => none
  | _, _ => none

end

/-- Reads a text that holds one value and blanks. -/
def ofText? (text : String) : Option Json :=
  let cs := text.toList
  match readValue (cs.length + 1) (skipBlanks cs) with
  | some (json, rest) => if (skipBlanks rest).isEmpty then some json else none
  | none => none

end SwitchAbstraction.Json
