import Mathlib.Data.List.TakeDrop
import SwitchAbstraction.Json.Reader
import SwitchAbstraction.Proofs.Numerals

/-!
# JSON texts read back

What a value is written as is read as that value, whatever value it is, so long
as nothing in it is unreadable.  Behind a value the text ends, or goes on with a
comma or a closing bracket; no number goes on with any of these.
-/

namespace SwitchAbstraction.Json

open Text

/-! ## Strings -/

/-- What is read of a string from one character on, given what is read behind it. -/
def withUnit (c : Char) (read : List Nat × List Char) : List Nat × List Char :=
  (c.toNat :: read.1, read.2)

/-- A character is escaped by one letter, by its code, or not at all. -/
theorem escape_cases (c : Char) :
    (∃ e, e ≠ 'u' ∧ unescape? e = some c ∧ escape c = ['\\', e]) ∨
    (c.toNat < 0x20 ∧
      escape c = ['\\', 'u', '0', '0'] ++ hexByte (UInt8.ofNat c.toNat)) ∨
    (c ≠ '"' ∧ c ≠ '\\' ∧ ¬ c.toNat < 0x20 ∧ escape c = [c]) := by
  unfold escape
  split
  · next same => exact .inl ⟨'"', by decide, by rw [same]; rfl, rfl⟩
  next noQuote =>
  split
  · next same => exact .inl ⟨'\\', by decide, by rw [same]; rfl, rfl⟩
  next noEscape =>
  split
  · next same => exact .inl ⟨'b', by decide, same ▸ rfl, rfl⟩
  split
  · next same => exact .inl ⟨'t', by decide, same ▸ rfl, rfl⟩
  split
  · next same => exact .inl ⟨'n', by decide, same ▸ rfl, rfl⟩
  split
  · next same => exact .inl ⟨'f', by decide, same ▸ rfl, rfl⟩
  split
  · next same => exact .inl ⟨'r', by decide, same ▸ rfl, rfl⟩
  split
  · next control => exact .inr (.inl ⟨control, rfl⟩)
  · next noControl => exact .inr (.inr ⟨noQuote, noEscape, noControl, rfl⟩)

theorem readUnits_letter {e c : Char} (letter : e ≠ 'u') (stands : unescape? e = some c)
    (cs : List Char) : readUnits ('\\' :: e :: cs) = (readUnits cs).map (withUnit c) := by
  rw [readUnits.eq_def]
  split
  · next impossible => cases impossible
  · next same => cases (List.cons.inj same).1
  · next same => exact absurd (List.cons.inj (List.cons.inj same).2).1 letter
  · next same =>
      obtain ⟨rfl, rfl⟩ := List.cons.inj (List.cons.inj same).2
      rw [stands]
      cases readUnits cs <;> rfl
  · next other same =>
      obtain ⟨rfl, rfl⟩ := List.cons.inj same
      exact absurd rfl (other _ _ rfl)

theorem readUnits_code {a b c d : Char} {unit : Nat} (code : hexQuad? a b c d = some unit)
    (cs : List Char) :
    readUnits ('\\' :: 'u' :: a :: b :: c :: d :: cs) =
      (readUnits cs).map fun read => (unit :: read.1, read.2) := by
  rw [readUnits, code]
  cases readUnits cs <;> rfl

theorem readUnits_plain {c : Char} (noQuote : c ≠ '"') (noEscape : c ≠ '\\')
    (noControl : ¬ c.toNat < 0x20) (cs : List Char) :
    readUnits (c :: cs) = (readUnits cs).map (withUnit c) := by
  rw [readUnits.eq_def]
  split
  · next impossible => cases impossible
  · next same => exact absurd (List.cons.inj same).1 noQuote
  · next same => exact absurd (List.cons.inj same).1 noEscape
  · next same => exact absurd (List.cons.inj same).1 noEscape
  · next same =>
      obtain ⟨rfl, rfl⟩ := List.cons.inj same
      rw [if_neg (by simp [noEscape, noControl])]
      cases readUnits cs <;> rfl

theorem hexQuad?_hexByte (byte : UInt8) :
    hexQuad? '0' '0' (Nat.digitChar (byte.toNat / 16)) (Nat.digitChar (byte.toNat % 16)) =
      some byte.toNat := by
  obtain ⟨high, low⟩ := digit?_hexByte byte
  have zero : digit? 16 '0' = some 0 := rfl
  simp [hexQuad?, zero, high, low, Nat.div_add_mod']

/-- An escaped character is read as its code. -/
theorem readUnits_escape (c : Char) (cs : List Char) :
    readUnits (escape c ++ cs) = (readUnits cs).map (withUnit c) := by
  rcases escape_cases c with
    ⟨e, letter, stands, same⟩ | ⟨control, same⟩ | ⟨noQuote, noEscape, noControl, same⟩
  · rw [same]
    exact readUnits_letter letter stands cs
  · have byte : (UInt8.ofNat c.toNat).toNat = c.toNat := by
      rw [UInt8.toNat_ofNat']
      omega
    have code := hexQuad?_hexByte (UInt8.ofNat c.toNat)
    rw [same]
    rw [byte] at code
    have read := readUnits_code code cs
    unfold hexByte
    rw [byte]
    exact read
  · rw [same]
    exact readUnits_plain noQuote noEscape noControl cs

theorem readUnits_flatMap_escape (cs rest : List Char) :
    readUnits (cs.flatMap escape ++ '"' :: rest) = some (cs.map Char.toNat, rest) := by
  induction cs with
  | nil => rfl
  | cons c cs ih =>
      rw [List.flatMap_cons, List.append_assoc, readUnits_escape, ih]
      rfl

/-- The codes of characters hold no surrogates. -/
theorem pairUp_map_toNat (cs : List Char) : pairUp (cs.map Char.toNat) = some cs := by
  induction cs with
  | nil => rfl
  | cons c cs ih =>
      have valid : c.toNat.isValidChar := c.valid
      have noLeading : isLeading c.toNat = false := by
        unfold isLeading
        rcases valid with low | high <;> simp <;> omega
      have noTrailing : isTrailing c.toNat = false := by
        unfold isTrailing
        rcases valid with low | high <;> simp <;> omega
      rw [List.map_cons, pairUp.eq_def]
      simp [noLeading, noTrailing, ih]

/-- A written string is read back. -/
theorem readText_flatMap_escape (value : String) (rest : List Char) :
    readText (value.toList.flatMap escape ++ '"' :: rest) = some (some value, rest) := by
  simp [readText, readUnits_flatMap_escape, pairUp_map_toNat]

/-! ## Numbers -/

/-- The text ends, or goes on as it does behind a value. -/
def Follows (rest : List Char) : Prop :=
  ∀ c ∈ rest.head?, c = ',' ∨ c = ']' ∨ c = '\x7d'

theorem follows_nil : Follows [] := by
  intro c impossible
  cases impossible

theorem follows_cons {c : Char} (close : c = ',' ∨ c = ']' ∨ c = '\x7d') (rest : List Char) :
    Follows (c :: rest) := by
  intro d same
  cases same
  exact close

variable {rest : List Char}

theorem spanDigits_append {ds : List Char} (digits : ∀ c ∈ ds, c.isDigit = true)
    (follows : Follows rest) : spanDigits (ds ++ rest) = (ds, rest) := by
  have stop : rest.takeWhile Char.isDigit = [] ∧ rest.dropWhile Char.isDigit = rest := by
    cases rest with
    | nil => exact ⟨rfl, rfl⟩
    | cons c rest =>
        rcases follows c rfl with rfl | rfl | rfl <;> exact ⟨rfl, rfl⟩
  unfold spanDigits
  rw [List.span_eq_takeWhile_dropWhile, List.takeWhile_append_of_pos digits,
    List.dropWhile_append_of_pos digits, stop.1, stop.2, List.append_nil]

theorem ofDigits_digits (n : Nat) : ofDigits (digits 10 n) = n := by
  have commuted : ofDigits (digits 10 n) = Nat.ofDigitChars 10 (Nat.toDigits 10 n) 0 := by
    unfold ofDigits Nat.ofDigitChars digits
    simp only [Nat.mul_comm]
  rw [commuted]
  exact Nat.ofDigitChars_toDigits (by decide) (by decide)

theorem isDigit_of_mem_digits {n : Nat} : ∀ c ∈ digits 10 n, c.isDigit = true := by
  intro c written
  exact Nat.isDigit_of_mem_toDigits (by decide) (by decide) written

theorem readWhole_digits (n : Nat) (follows : Follows rest) :
    readWhole (digits 10 n ++ rest) = some (n, rest) := by
  unfold readWhole
  rw [spanDigits_append isDigit_of_mem_digits follows]
  split
  · next same => exact absurd (Prod.mk.inj same).1 digits_ne_nil
  · next same =>
      -- Only zero begins with a zero, and it has no second digit.
      obtain ⟨shape, _⟩ := Prod.mk.inj same
      have zero : n = 0 := by
        refine @eq_zero_of_head?_digits 10 n (by decide) (by decide) ?_
        rw [shape]
        rfl
      subst zero
      cases shape
  · next same =>
      obtain ⟨rfl, rfl⟩ := Prod.mk.inj same
      rw [ofDigits_digits]

theorem readMagnitude_digits (n : Nat) (follows : Follows rest) :
    readMagnitude (digits 10 n ++ rest) = some (some n, rest) := by
  have fraction : skipFraction? rest = some (false, rest) := by
    cases rest with
    | nil => rfl
    | cons c rest =>
        rcases follows c rfl with rfl | rfl | rfl <;> rfl
  have exponent : skipExponent? rest = some (false, rest) := by
    cases rest with
    | nil => rfl
    | cons c rest =>
        rcases follows c rfl with rfl | rfl | rfl <;> rfl
  simp [readMagnitude, readWhole_digits n follows, fraction, exponent]

theorem digits_head (n : Nat) : ∃ d ds, digits 10 n = d :: ds ∧ d.isDigit = true := by
  cases written : digits 10 n with
  | nil => exact absurd written digits_ne_nil
  | cons d ds =>
      refine ⟨d, ds, rfl, ?_⟩
      apply @isDigit_of_mem_digits n
      rw [written]
      exact List.mem_cons_self

/-- A written integer is read back. -/
theorem readNumber_writeInt (value : Int) (follows : Follows rest) :
    readNumber (writeInt value ++ rest) = some (.int value, rest) := by
  cases value with
  | ofNat n =>
      obtain ⟨d, ds, written, digit⟩ := digits_head n
      have read := readMagnitude_digits n follows
      change readNumber (digits 10 n ++ rest) = _
      unfold readNumber
      split
      · next same =>
          rw [written] at same
          cases (List.cons.inj same).1
          cases digit
      · rw [read]
        rfl
  | negSucc n =>
      have read := readMagnitude_digits (n + 1) follows
      unfold writeInt
      rw [List.cons_append, readNumber, read]
      rfl

/-! ## Values -/

/-- Nothing in the value is unreadable. -/
inductive IsReadable : Json → Prop where
  | null : IsReadable .null
  | bool (value : Bool) : IsReadable (.bool value)
  | int (value : Int) : IsReadable (.int value)
  | string (value : String) : IsReadable (.string value)
  | array {items : List Json} (all : ∀ item ∈ items, IsReadable item) :
      IsReadable (.array items)
  | object {members : List (String × Json)} (all : ∀ member ∈ members, IsReadable member.2) :
      IsReadable (.object members)

/-- The text begins with a character that is neither a blank nor a closing bracket. -/
def Begins (cs : List Char) : Prop :=
  ∃ c rest, cs = c :: rest ∧ isBlank c = false ∧ c ≠ ']' ∧ c ≠ '\x7d'

theorem Begins.append {cs : List Char} (begins : Begins cs) (more : List Char) :
    Begins (cs ++ more) := by
  obtain ⟨c, rest, rfl, plain⟩ := begins
  exact ⟨c, rest ++ more, rfl, plain⟩

theorem Begins.skipBlanks {cs : List Char} (begins : Begins cs) : skipBlanks cs = cs := by
  obtain ⟨c, rest, rfl, noBlank, _⟩ := begins
  unfold Json.skipBlanks
  rw [List.dropWhile_cons, noBlank]
  rfl

theorem begins_write (json : Json) : Begins json.write := by
  cases json with
  | null => exact ⟨_, _, rfl, by decide⟩
  | bool value => cases value <;> exact ⟨_, _, rfl, by decide⟩
  | int value =>
      cases value with
      | ofNat n =>
          obtain ⟨d, ds, written, digit⟩ := digits_head n
          refine ⟨d, ds, written, ?_, ?_, ?_⟩
          · cases blank : isBlank d with
            | false => rfl
            | true =>
                simp only [isBlank, Bool.or_eq_true, decide_eq_true_eq] at blank
                rcases blank with ((rfl | rfl) | rfl) | rfl <;> cases digit
          · rintro rfl
            cases digit
          · rintro rfl
            cases digit
      | negSucc n => exact ⟨_, _, rfl, by decide⟩
  | string value => exact ⟨_, _, rfl, by decide⟩
  | array items => exact ⟨_, _, rfl, by decide⟩
  | object members => exact ⟨_, _, rfl, by decide⟩
  | unreadable => exact ⟨_, _, rfl, by decide⟩

theorem begins_writeItems (item : Json) (items : List Json) :
    Begins (writeItems (item :: items)) := by
  cases items with
  | nil => exact begins_write item
  | cons => exact (begins_write item).append _

theorem begins_writeMembers (member : String × Json) (members : List (String × Json)) :
    Begins (writeMembers (member :: members)) := by
  cases members with
  | nil => exact ⟨_, _, rfl, by decide⟩
  | cons => exact ⟨_, _, rfl, by decide⟩

/-- As many steps as the value has characters are enough to read what it is written as. -/
def ReadsBack (json : Json) : Prop :=
  ∀ (fuel : Nat) (rest : List Char), json.write.length ≤ fuel → Follows rest →
    readValue fuel (json.write ++ rest) = some (json, rest)

theorem readItems_writeItems (item : Json) {items : List Json} (fuel : Nat)
    (own : item.ReadsBack) (others : ∀ item ∈ items, item.ReadsBack)
    (enough : (writeItems (item :: items)).length < fuel) :
    readItems fuel (writeItems (item :: items) ++ ']' :: rest) = some (item :: items, rest) := by
  induction items generalizing item fuel with
  | nil =>
      cases fuel with
      | zero => cases enough
      | succ fuel =>
          have read := own fuel _ (Nat.le_of_lt_succ enough) (follows_cons (.inr (.inl rfl)) rest)
          change readItems (fuel + 1) (item.write ++ ']' :: rest) = _
          rw [readItems, read]
          rfl
  | cons next items ih =>
      cases fuel with
      | zero => cases enough
      | succ fuel =>
          simp only [writeItems, List.length_append, List.length_cons] at enough
          have read := own fuel _ (by omega)
            (follows_cons (.inl rfl) (writeItems (next :: items) ++ ']' :: rest))
          have blanks := ((begins_writeItems next items).append (']' :: rest)).skipBlanks
          have later := ih next fuel (others next List.mem_cons_self)
            (fun item member => others item (List.mem_cons_of_mem _ member)) (by omega)
          simp only [writeItems, List.append_assoc, List.cons_append]
          have comma : skipBlanks (',' :: (writeItems (next :: items) ++ ']' :: rest)) =
              ',' :: (writeItems (next :: items) ++ ']' :: rest) := rfl
          rw [readItems, read]
          simp only [Option.bind_eq_bind, Option.bind_some, comma, blanks, later]
          rfl

/-- A member as it is read: its name might have been unreadable. -/
def named (member : String × Json) : Option String × Json :=
  (some member.1, member.2)

/-- The name of a member and its value are read, up to what follows the value. -/
theorem readMembers_member (name : String) (value : Json) (fuel : Nat) (own : value.ReadsBack)
    (enough : value.write.length ≤ fuel) (follows : Follows rest) :
    readMembers (fuel + 1) (writeString name ++ ':' :: (value.write ++ rest)) =
      match skipBlanks rest with
      | '\x7d' :: rest => some ([(some name, value)], rest)
      | ',' :: rest => do
          let (members, rest) ← readMembers fuel (skipBlanks rest)
          return ((some name, value) :: members, rest)
      | _ => none := by
  have text := readText_flatMap_escape name (':' :: (value.write ++ rest))
  have blanks := ((begins_write value).append rest).skipBlanks
  have read := own fuel rest enough follows
  unfold writeString
  simp only [List.cons_append, List.append_assoc, List.nil_append]
  have colon : skipBlanks (':' :: (value.write ++ rest)) = ':' :: (value.write ++ rest) := rfl
  rw [readMembers, text]
  simp only [Option.bind_eq_bind, Option.bind_some, colon, blanks, read]
  rfl

theorem readMembers_writeMembers (member : String × Json) {members : List (String × Json)}
    (fuel : Nat) (own : member.2.ReadsBack) (others : ∀ member ∈ members, member.2.ReadsBack)
    (enough : (writeMembers (member :: members)).length < fuel) :
    readMembers fuel (writeMembers (member :: members) ++ '\x7d' :: rest) =
      some ((member :: members).map named, rest) := by
  obtain ⟨name, value⟩ := member
  induction members generalizing name value fuel with
  | nil =>
      cases fuel with
      | zero => cases enough
      | succ fuel =>
          simp only [writeMembers, List.length_append, List.length_cons] at enough
          have read := readMembers_member name value fuel own (by omega)
            (follows_cons (.inr (.inr rfl)) rest)
          simp only [writeMembers, List.append_assoc, List.cons_append]
          rw [read]
          rfl
  | cons next members ih =>
      obtain ⟨nextName, nextValue⟩ := next
      cases fuel with
      | zero => cases enough
      | succ fuel =>
          simp only [writeMembers, List.length_append, List.length_cons] at enough
          have read := readMembers_member name value fuel own (by omega)
            (follows_cons (.inl rfl)
              (writeMembers ((nextName, nextValue) :: members) ++ '\x7d' :: rest))
          have blanks :=
            ((begins_writeMembers (nextName, nextValue) members).append ('\x7d' :: rest)).skipBlanks
          have later := ih fuel (fun member listed => others member (List.mem_cons_of_mem _ listed))
            nextName nextValue (others _ List.mem_cons_self) (by omega)
          simp only [writeMembers, List.append_assoc, List.cons_append]
          rw [read]
          change (do
            let (members, rest) ← readMembers fuel
              (skipBlanks (writeMembers ((nextName, nextValue) :: members) ++ '\x7d' :: rest))
            return ((some name, value) :: members, rest)) = _
          rw [blanks, later]
          rfl

theorem ofMembers_map_named (members : List (String × Json)) :
    ofMembers (members.map named) = .object members := by
  have all : (members.map named).mapM (fun member => member.1.map fun name => (name, member.2)) =
      some members := by
    induction members with
    | nil => rfl
    | cons member members ih =>
        rw [List.map_cons, List.mapM_cons, ih]
        rfl
  unfold ofMembers
  rw [all]

theorem readsBack_of_succ {json : Json}
    (reads : ∀ (fuel : Nat) (rest : List Char), json.write.length ≤ fuel + 1 → Follows rest →
      readValue (fuel + 1) (json.write ++ rest) = some (json, rest)) : json.ReadsBack := by
  intro fuel rest enough follows
  cases fuel with
  | zero =>
      obtain ⟨c, cs, written, _⟩ := begins_write json
      rw [written] at enough
      cases enough
  | succ fuel => exact reads fuel rest enough follows

theorem readsBack_int (value : Int) : ReadsBack (.int value) := by
  apply readsBack_of_succ
  intro fuel rest _ follows
  have read := readNumber_writeInt value follows
  have first : ∃ c cs, writeInt value = c :: cs ∧ (c = '-' ∨ c.isDigit = true) := by
    cases value with
    | ofNat n =>
        obtain ⟨d, ds, written, digit⟩ := digits_head n
        exact ⟨d, ds, written, .inr digit⟩
    | negSucc n => exact ⟨_, _, rfl, .inl rfl⟩
  obtain ⟨c, cs, written, number⟩ := first
  change readValue (fuel + 1) (writeInt value ++ rest) = _
  rw [written] at read ⊢
  -- What begins a number begins nothing else.
  have others : c ≠ '"' ∧ c ≠ '[' ∧ c ≠ '\x7b' ∧ c ≠ 'n' ∧ c ≠ 't' ∧ c ≠ 'f' := by
    refine ⟨?_, ?_, ?_, ?_, ?_, ?_⟩ <;> rintro rfl <;> rcases number with sign | digit <;>
      first | cases sign | cases digit
  obtain ⟨noString, noArray, noObject, noNull, noTrue, noFalse⟩ := others
  rw [List.cons_append, readValue, if_neg noString, if_neg noArray, if_neg noObject, if_neg noNull,
    if_neg noTrue, if_neg noFalse]
  exact read

theorem readValue_array {fuel : Nat} {cs : List Char} (begins : Begins cs) :
    readValue (fuel + 1) ('[' :: cs) =
      (readItems fuel cs).map fun read => (.array read.1, read.2) := by
  have blanks := begins.skipBlanks
  obtain ⟨c, rest, rfl, _, noClose, _⟩ := begins
  rw [readValue, if_neg (by decide), if_pos rfl, blanks]
  split
  · next same => exact absurd (List.cons.inj same).1 noClose
  · cases readItems fuel (c :: rest) <;> rfl

theorem readValue_object {fuel : Nat} {cs : List Char} (begins : Begins cs) :
    readValue (fuel + 1) ('\x7b' :: cs) =
      (readMembers fuel cs).map fun read => (ofMembers read.1, read.2) := by
  have blanks := begins.skipBlanks
  obtain ⟨c, rest, rfl, _, _, noClose⟩ := begins
  rw [readValue, if_neg (by decide), if_neg (by decide), if_pos rfl, blanks]
  split
  · next same => exact absurd (List.cons.inj same).1 noClose
  · cases readMembers fuel (c :: rest) <;> rfl

theorem IsReadable.readsBack {json : Json} (readable : json.IsReadable) : json.ReadsBack := by
  induction readable with
  | null =>
      apply readsBack_of_succ
      intro fuel rest _ _
      rfl
  | bool value =>
      apply readsBack_of_succ
      intro fuel rest _ _
      cases value <;> rfl
  | int value => exact readsBack_int value
  | string value =>
      apply readsBack_of_succ
      intro fuel rest _ _
      have read := readText_flatMap_escape value rest
      change readValue (fuel + 1) (writeString value ++ rest) = _
      unfold writeString
      rw [List.cons_append, List.append_assoc, readValue, if_pos rfl, List.singleton_append, read]
      rfl
  | @array items _ ih =>
      apply readsBack_of_succ
      intro fuel rest enough _
      cases items with
      | nil => rfl
      | cons item items =>
          simp only [write, List.length_append, List.length_cons, List.length_nil] at enough
          have read : readItems fuel (writeItems (item :: items) ++ ']' :: rest) =
              some (item :: items, rest) :=
            readItems_writeItems item fuel (ih item List.mem_cons_self)
              (fun other member => ih other (List.mem_cons_of_mem _ member)) (by omega)
          simp only [write, List.cons_append, List.append_assoc, List.nil_append]
          rw [readValue_array ((begins_writeItems item items).append (']' :: rest)), read]
          rfl
  | @object members _ ih =>
      apply readsBack_of_succ
      intro fuel rest enough _
      cases members with
      | nil => rfl
      | cons member members =>
          simp only [write, List.length_append, List.length_cons, List.length_nil] at enough
          have read : readMembers fuel (writeMembers (member :: members) ++ '\x7d' :: rest) =
              some ((member :: members).map named, rest) :=
            readMembers_writeMembers member fuel (ih member List.mem_cons_self)
              (fun other listed => ih other (List.mem_cons_of_mem _ listed)) (by omega)
          simp only [write, List.cons_append, List.append_assoc, List.nil_append]
          rw [readValue_object ((begins_writeMembers member members).append ('\x7d' :: rest)), read]
          simp only [Option.map_some, ofMembers_map_named]

/-- The text of a value is read as that value. -/
theorem ofText?_text {json : Json} (readable : json.IsReadable) :
    ofText? json.text = some json := by
  have enough : json.write.length ≤ json.write.length + 1 := Nat.le_succ _
  have read := readable.readsBack (json.write.length + 1) [] enough follows_nil
  rw [List.append_nil] at read
  unfold ofText? text
  simp only [String.toList_ofList]
  rw [(begins_write json).skipBlanks, read]
  rfl

end SwitchAbstraction.Json
