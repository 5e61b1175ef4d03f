/-!
# Texts

Numerals are read and written, blanks are taken off the ends, and texts are
cut into their parts.
-/

namespace SwitchAbstraction.Text

/-!
## Numerals

Unsigned numbers in a base up to sixteen.  A numeral may open with a plus
sign and with zeros; reading stops at the first character that is no digit or
that takes the value to the limit, whichever comes first.
-/

/-- The ways in which a text fails to be an unsigned numeral. -/
inductive NumeralDefect
  | empty
  | invalidDigit
  | tooLarge
  deriving DecidableEq

/-- The words for a defect. -/
def NumeralDefect.message : NumeralDefect → String
  | .empty => "cannot parse integer from empty string"
  | .invalidDigit => "invalid digit found in string"
  | .tooLarge => "number too large to fit in target type"

/-- The value of a digit; letters of either case follow nine. -/
def digit? (base : Nat) (c : Char) : Option Nat :=
  let value :=
    if '0' ≤ c ∧ c ≤ '9' then some (c.toNat - '0'.toNat)
    else if 'a' ≤ c ∧ c ≤ 'f' then some (c.toNat - 'a'.toNat + 10)
    else if 'A' ≤ c ∧ c ≤ 'F' then some (c.toNat - 'A'.toNat + 10)
    else none
  value.filter (· < base)

/-- Reads digits behind an already read value, keeping the value below the limit. -/
def readDigits (base limit : Nat) (value : Nat) : List Char → Except NumeralDefect Nat
  | [] => .ok value
  | c :: cs =>
      match digit? base c with
      | none => .error .invalidDigit
      | some digit =>
          if value * base + digit < limit then
            readDigits base limit (value * base + digit) cs
          else
            .error .tooLarge

/-- Reads a numeral: an optional plus sign and at least one digit. -/
def readUnsigned (base limit : Nat) : List Char → Except NumeralDefect Nat
  | [] => .error .empty
  | ['+'] => .error .invalidDigit
  | '+' :: c :: cs => readDigits base limit 0 (c :: cs)
  | c :: cs => readDigits base limit 0 (c :: cs)

/-- The digits of a number, without leading zeros and in lower case. -/
def digits (base : Nat) (n : Nat) : List Char :=
  Nat.toDigits base n

/-- The decimal text of a number. -/
def decimal (n : Nat) : String :=
  String.ofList (digits 10 n)

/-- The lower-case hexadecimal text of a number. -/
def hexadecimal (n : Nat) : String :=
  String.ofList (digits 16 n)

/-- The two lower-case hexadecimal digits of a byte. -/
def hexByte (byte : UInt8) : List Char :=
  [Nat.digitChar (byte.toNat / 16), Nat.digitChar (byte.toNat % 16)]

/-!
## Blank characters

The characters that count as blank around a word are those of the Unicode
property White_Space: twenty-five code points, held as ten ranges.
-/

/-- First and last code point of each range of the property White_Space. -/
def blankRanges : List (Nat × Nat) :=
  [(0x09, 0x0d), (0x20, 0x20), (0x85, 0x85), (0xa0, 0xa0), (0x1680, 0x1680),
    (0x2000, 0x200a), (0x2028, 0x2029), (0x202f, 0x202f), (0x205f, 0x205f),
    (0x3000, 0x3000)]

/-- A character is blank when its code point lies in one of the ranges. -/
def isBlank (c : Char) : Bool :=
  blankRanges.any fun range => range.1 ≤ c.toNat && c.toNat ≤ range.2

/-- A text without the blanks at both of its ends. -/
def trim (cs : List Char) : List Char :=
  ((cs.dropWhile isBlank).reverse.dropWhile isBlank).reverse

@[simp] theorem trim_nil : trim [] = [] := rfl

/-- Every character that core calls white space is blank. -/
theorem isBlank_of_isWhitespace {c : Char} (white : c.isWhitespace = true) :
    isBlank c = true := by
  simp only [Char.isWhitespace, Bool.or_eq_true, decide_eq_true_eq] at white
  rcases white with ((rfl | rfl) | rfl) | rfl <;> decide

/-!
## Cutting texts

A text is cut once, at the first separator, or at every separator.  Neither
cut loses a character: joining the pieces with the separator gives the text
back.
-/

/-- The parts before and after the first separator, if there is one. -/
def cut? (separator : Char) : List Char → Option (List Char × List Char)
  | [] => none
  | c :: cs =>
      if c = separator then some ([], cs)
      else (cut? separator cs).map fun parts => (c :: parts.1, parts.2)

/-- The parts between the breaks; a text without a break is its own only part. -/
def pieces (isBreak : Char → Bool) : List Char → List (List Char)
  | [] => [[]]
  | c :: cs =>
      if isBreak c then [] :: pieces isBreak cs
      else (pieces isBreak cs).modifyHead (c :: ·)

/-- The lines of a text. -/
def lines (cs : List Char) : List (List Char) :=
  pieces (· = '\n') cs

@[simp] theorem pieces_nil (isBreak : Char → Bool) : pieces isBreak [] = [[]] := rfl

theorem pieces_ne_nil (isBreak : Char → Bool) (cs : List Char) :
    pieces isBreak cs ≠ [] := by
  induction cs with
  | nil => simp
  | cons c cs ih =>
      unfold pieces
      split
      · simp
      · cases found : pieces isBreak cs with
        | nil => exact absurd found ih
        | cons piece rest => simp

/-- No piece holds a break. -/
theorem isBreak_of_mem_pieces {isBreak : Char → Bool} {cs piece : List Char} {c : Char}
    (found : piece ∈ pieces isBreak cs) (inside : c ∈ piece) : isBreak c = false := by
  induction cs generalizing piece with
  | nil => simp_all
  | cons d cs ih =>
      unfold pieces at found
      split at found
      · rcases List.mem_cons.mp found with rfl | later
        · simp at inside
        · exact ih later inside
      · next plain =>
          cases parts : pieces isBreak cs with
          | nil => exact absurd parts (pieces_ne_nil isBreak cs)
          | cons first rest =>
              rw [parts] at ih found
              simp only [List.modifyHead_cons, List.mem_cons] at found
              rcases found with rfl | later
              · rcases List.mem_cons.mp inside with rfl | inside
                · simpa using plain
                · exact ih (by simp) inside
              · exact ih (by simp [later]) inside

/-- Joining the pieces with the separator gives the text back. -/
theorem intercalate_pieces (separator : Char) (cs : List Char) :
    [separator].intercalate (pieces (· = separator) cs) = cs := by
  induction cs with
  | nil => rfl
  | cons c cs ih =>
      cases parts : pieces (· = separator) cs with
      | nil => exact absurd parts (pieces_ne_nil _ cs)
      | cons first rest =>
          rw [parts] at ih
          by_cases same : c = separator
          · simp [pieces, same, parts, ih]
          · cases rest with
            | nil => simpa [pieces, same, parts] using ih
            | cons second rest => simpa [pieces, same, parts] using ih

/-- Every character of a text is a break or in a piece. -/
theorem mem_pieces_of_mem {isBreak : Char → Bool} {cs : List Char} {c : Char} (inside : c ∈ cs)
    (plain : isBreak c = false) : ∃ piece ∈ pieces isBreak cs, c ∈ piece := by
  induction cs with
  | nil => cases inside
  | cons d cs ih =>
      unfold pieces
      rcases List.mem_cons.mp inside with rfl | later
      · rw [plain]
        cases parts : pieces isBreak cs with
        | nil => exact absurd parts (pieces_ne_nil isBreak cs)
        | cons first rest => exact ⟨c :: first, by simp⟩
      · obtain ⟨piece, found, within⟩ := ih later
        split
        · exact ⟨piece, List.mem_cons_of_mem _ found, within⟩
        · cases parts : pieces isBreak cs with
          | nil => exact absurd parts (pieces_ne_nil isBreak cs)
          | cons first rest =>
              rw [parts] at found
              rcases List.mem_cons.mp found with rfl | other
              · exact ⟨d :: piece, by simp, List.mem_cons_of_mem _ within⟩
              · exact ⟨piece, by simp [other], within⟩

theorem pieces_of_plain {isBreak : Char → Bool} {piece : List Char}
    (plain : ∀ c ∈ piece, isBreak c = false) : pieces isBreak piece = [piece] := by
  induction piece with
  | nil => rfl
  | cons c piece ih =>
      have others := ih fun d member => plain d (List.mem_cons_of_mem _ member)
      have own := plain c List.mem_cons_self
      simp [pieces, own, others]

theorem pieces_append {isBreak : Char → Bool} {piece : List Char} {separator : Char}
    (plain : ∀ c ∈ piece, isBreak c = false) (separates : isBreak separator = true)
    (rest : List Char) :
    pieces isBreak (piece ++ separator :: rest) = piece :: pieces isBreak rest := by
  induction piece with
  | nil => simp [pieces, separates]
  | cons c piece ih =>
      have others := ih fun d member => plain d (List.mem_cons_of_mem _ member)
      have own := plain c List.mem_cons_self
      simp [pieces, own, others]

/-- Parts that hold no break are the pieces of what they are joined to. -/
theorem pieces_intercalate {isBreak : Char → Bool} {separator : Char} {parts : List (List Char)}
    (separates : isBreak separator = true)
    (plain : ∀ part ∈ parts, ∀ c ∈ part, isBreak c = false) (given : parts ≠ []) :
    pieces isBreak ([separator].intercalate parts) = parts := by
  induction parts with
  | nil => exact absurd rfl given
  | cons first rest ih =>
      have own := plain first List.mem_cons_self
      have others := fun part member => plain part (List.mem_cons_of_mem first member)
      cases rest with
      | nil => simpa [List.intercalate] using pieces_of_plain own
      | cons second rest =>
          have later := ih others (List.cons_ne_nil _ _)
          rw [List.intercalate_cons_cons, List.append_assoc, List.singleton_append,
            pieces_append own separates, later]

/-- The first cut loses nothing, and its first part holds no separator. -/
theorem cut?_eq_some {separator : Char} {cs before after : List Char}
    (found : cut? separator cs = some (before, after)) :
    cs = before ++ separator :: after ∧ separator ∉ before := by
  induction cs generalizing before with
  | nil => simp [cut?] at found
  | cons c cs ih =>
      unfold cut? at found
      split at found
      · next same =>
          simp only [Option.some.injEq, Prod.mk.injEq] at found
          obtain ⟨rfl, rfl⟩ := found
          simp [same]
      · next other =>
          obtain ⟨parts, inner, equal⟩ := Option.map_eq_some_iff.mp found
          simp only [Prod.mk.injEq] at equal
          obtain ⟨rfl, rfl⟩ := equal
          obtain ⟨joined, absent⟩ := ih inner
          exact ⟨by simp [joined], by simp [absent, Ne.symm other]⟩

/-- A text is cut at the first separator after a part that holds none. -/
theorem cut?_append {separator : Char} {before : List Char} (after : List Char)
    (absent : separator ∉ before) :
    cut? separator (before ++ separator :: after) = some (before, after) := by
  induction before with
  | nil => simp [cut?]
  | cons c before ih =>
      simp only [List.mem_cons, not_or] at absent
      simp [cut?, Ne.symm absent.1, ih absent.2]

end SwitchAbstraction.Text
