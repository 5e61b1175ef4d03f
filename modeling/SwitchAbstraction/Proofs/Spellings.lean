import SwitchAbstraction.Proofs.WrittenValues

/-!
# Spellings of addresses and ids

A MAC address is spelled by six groups of two characters, an object id by a
number behind a fixed opening.  Every group and the number are hexadecimal
digits, but what is read may also have a plus sign in front of them.  So a text
is read exactly if it is spelled in this way, and the two differ on texts with a
plus sign only.
-/

namespace SwitchAbstraction

open Text

/-! ## Parts between breaks -/

namespace Text

/-- A text of parts with one break between any two of them. -/
inductive IsJoined (isBreak : Char → Bool) : List (List Char) → List Char → Prop
  | single (part : List Char) : IsJoined isBreak [part] part
  | more (part : List Char) {separator : Char} {parts : List (List Char)} {cs : List Char}
      (separates : isBreak separator = true) (others : IsJoined isBreak parts cs) :
      IsJoined isBreak (part :: parts) (part ++ separator :: cs)

variable {isBreak : Char → Bool} {parts : List (List Char)} {cs : List Char}

theorem IsJoined.mem {c : Char} (joined : IsJoined isBreak parts cs) {part : List Char}
    (found : part ∈ parts) (inside : c ∈ part) : c ∈ cs := by
  induction joined with
  | single own =>
      rw [List.mem_singleton.mp found] at inside
      exact inside
  | more own _ _ ih =>
      rcases List.mem_cons.mp found with rfl | later
      · exact List.mem_append_left _ inside
      · exact List.mem_append_right own (List.mem_cons_of_mem _ (ih later))

/-- Nothing but breaks stands between the parts. -/
theorem IsJoined.isBreak_or_mem {c : Char} (joined : IsJoined isBreak parts cs) (inside : c ∈ cs) :
    isBreak c = true ∨ ∃ part ∈ parts, c ∈ part := by
  induction joined with
  | single own => exact .inr ⟨own, List.mem_singleton_self own, inside⟩
  | more own separates _ ih =>
      rcases List.mem_append.mp inside with first | later
      · exact .inr ⟨own, List.mem_cons_self, first⟩
      · rcases List.mem_cons.mp later with rfl | later
        · exact .inl separates
        · obtain isSeparator | ⟨part, found, within⟩ := ih later
          · exact .inl isSeparator
          · exact .inr ⟨part, List.mem_cons_of_mem own found, within⟩

theorem isJoined_pieces (isBreak : Char → Bool) (cs : List Char) :
    IsJoined isBreak (pieces isBreak cs) cs := by
  induction cs with
  | nil => exact .single []
  | cons c cs ih =>
      unfold pieces
      split
      · next separates => exact .more [] separates ih
      · generalize pieces isBreak cs = parts at ih
        cases ih with
        | single part => exact .single _
        | more part separates others => exact .more (c :: part) separates others

/-- The pieces of a text are the parts that it is joined from, if none of them holds a break. -/
theorem pieces_eq_iff :
    pieces isBreak cs = parts ↔
      IsJoined isBreak parts cs ∧ ∀ part ∈ parts, ∀ c ∈ part, isBreak c = false := by
  constructor
  · rintro rfl
    exact ⟨isJoined_pieces isBreak cs, fun part found c inside =>
      isBreak_of_mem_pieces found inside⟩
  · rintro ⟨joined, plain⟩
    induction joined with
    | single part => exact pieces_of_plain (plain part List.mem_cons_self)
    | more part separates _ ih =>
        obtain ⟨own, others⟩ := List.forall_mem_cons.mp plain
        rw [pieces_append own separates, ih others]

end Text

/-! ## Texts of a form -/

/-- A text is read as the value that it spells; a text that spells none is an invalid parameter. -/
structure Reads {α : Type} (parse : String → Except Fault α) (spells : α → List Char → Prop)
    (text : String) : Prop where
  accepted : ∀ value, parse text = .ok value ↔ spells value text.toList
  refused : (∀ value, ¬ spells value text.toList) →
    ∃ fault, parse text = .error fault ∧ fault.status = .invalidParameter

namespace Reads

variable {α : Type} {parse : String → Except Fault α} {spells : α → List Char → Prop}
  {text : String}

theorem of_reader {read? : String → Option α} {cause : InvalidInput}
    (checked : parse text = (read? text).elim (.error (.invalid cause)) .ok)
    (understood : ∀ value, read? text = some value ↔ spells value text.toList) :
    Reads parse spells text where
  accepted value := by
    rw [checked, ← understood]
    cases read? text <;> simp
  refused unspelled := by
    have unread : read? text = none := by
      rw [Option.eq_none_iff_forall_ne_some]
      exact fun value read => unspelled value ((understood value).mp read)
    rw [checked, unread]
    exact ⟨_, rfl, rfl⟩

/-- Without plus signs the form says what is read, unless a text spells something with one. -/
theorem iff_of_plusless {strict : α → List Char → Prop} (reads : Reads parse spells text)
    (plusless : ∀ {value cs}, strict value cs ↔ spells value cs ∧ '+' ∉ cs) :
    Reads parse strict text ↔ '+' ∉ text.toList ∨ ∀ value, ¬ spells value text.toList := by
  constructor
  · intro strictly
    by_contra signed
    obtain ⟨sign, spelled⟩ := not_or.mp signed
    obtain ⟨value, spelled⟩ := not_forall_not.mp spelled
    have read := (strictly.accepted value).mp ((reads.accepted value).mpr spelled)
    exact sign (plusless.mp read).2
  · rintro (noSign | unspelled)
    · have same (value : α) : strict value text.toList ↔ spells value text.toList :=
        plusless.trans (and_iff_left noSign)
      refine ⟨fun value => (reads.accepted value).trans (same value).symm, fun none => ?_⟩
      exact reads.refused fun value spelled => none value ((same value).mpr spelled)
    · refine ⟨fun value => (reads.accepted value).trans ?_, fun _ => reads.refused unspelled⟩
      exact iff_of_false (unspelled value) fun spelled => unspelled value (plusless.mp spelled).1

end Reads

/-! ## MAC addresses -/

namespace Mac

variable {mac : Mac} {octet : UInt8} {cs : List Char}

/-- Six groups of two characters, with a colon or a hyphen between any two of them. -/
def IsSpelled (stands : List Char → Nat → Prop) (mac : Mac) (cs : List Char) : Prop :=
  ∃ groups, IsJoined (fun c => c = ':' || c = '-') groups cs ∧
    List.Forall₂ (fun group octet => group.length = 2 ∧ stands group octet.toNat) groups mac.octets

theorem octet?_eq_some_iff :
    octet? cs = some octet ↔ cs.length = 2 ∧ IsNumeral 16 cs octet.toNat := by
  unfold octet?
  split
  · next two =>
      rw [and_iff_right two]
      exact toOption_readUnsigned_eq_some_iff (by decide) (fun word => word.toNat_lt)
        (fun _ => UInt8.toNat_ofNat_of_lt') fun _ => UInt8.ofNat_toNat
  · next other => exact iff_of_false nofun fun spelled => other spelled.1

theorem ofText?_eq_some_iff {text : String} :
    ofText? text = some mac ↔ mac.IsSpelled (IsNumeral 16) text.toList := by
  unfold ofText?
  constructor
  · intro read
    obtain ⟨octets, all, six⟩ := Option.bind_eq_some_iff.mp read
    unfold ofOctets? at six
    split at six
    · obtain rfl := Option.some.inj six
      have each := mapM_eq_some_iff.mp all
      simp only [octet?_eq_some_iff] at each
      exact ⟨_, isJoined_pieces _ _, each⟩
    · cases six
  · rintro ⟨groups, joined, each⟩
    -- Neither separator is a digit or a plus sign, so the text is cut where it was joined.
    have plain : ∀ group ∈ groups, ∀ c ∈ group, (decide (c = ':') || decide (c = '-')) = false := by
      have numerals := (List.forall₂_and_left _ _).mp
        (each.imp fun _ _ stands => ⟨stands.2.plus_or_digit, stands⟩)
      intro group found c inside
      rw [Bool.or_eq_false_iff, decide_eq_false_iff_not, decide_eq_false_iff_not]
      constructor
      · rintro rfl
        obtain sign | digit := numerals.1 group found ':' inside
        · cases sign
        · cases digit
      · rintro rfl
        obtain sign | digit := numerals.1 group found '-' inside
        · cases sign
        · cases digit
    have read : groups.mapM octet? = some mac.octets := by
      rw [mapM_eq_some_iff]
      simp only [octet?_eq_some_iff]
      exact each
    rw [pieces_eq_iff.mpr ⟨joined, plain⟩, read]
    exact dif_pos mac.length_octets

/-- Groups of digits are those groups that are read and have no plus sign. -/
theorem isSpelled_digits_iff :
    mac.IsSpelled (IsDigits 16) cs ↔ mac.IsSpelled (IsNumeral 16) cs ∧ '+' ∉ cs := by
  constructor
  · rintro ⟨groups, joined, each⟩
    have noSigns := (List.forall₂_and_left _ _).mp
      (each.imp fun _ _ stands => ⟨(isDigits_iff.mp stands.2).2, stands⟩)
    refine ⟨⟨groups, joined, each.imp fun _ _ stands => ⟨stands.1, .plain stands.2⟩⟩, ?_⟩
    intro sign
    obtain separates | ⟨group, found, inside⟩ := joined.isBreak_or_mem sign
    · cases separates
    · exact noSigns.1 group found inside
  · rintro ⟨⟨groups, joined, each⟩, noSign⟩
    have noSigns : ∀ group ∈ groups, '+' ∉ group :=
      fun group found inside => noSign (joined.mem found inside)
    have both := (List.forall₂_and_left _ _).mpr ⟨noSigns, each⟩
    exact ⟨groups, joined, both.imp fun _ _ stands =>
      ⟨stands.2.1, isDigits_iff.mpr ⟨stands.2.2, stands.1⟩⟩⟩

theorem reads_numerals (text : String) : Reads parse (IsSpelled (IsNumeral 16)) text :=
  .of_reader (by unfold parse; cases ofText? text <;> rfl) fun _ => ofText?_eq_some_iff

theorem parse_text (mac : Mac) : parse mac.text = .ok mac := by
  unfold parse
  rw [ofText?_text]

end Mac

/-! ## Object ids -/

namespace ObjectId

variable {id : ObjectId} {cs : List Char}

/-- A number behind the opening that all ids have. -/
def IsSpelled (stands : List Char → Nat → Prop) (id : ObjectId) (cs : List Char) : Prop :=
  ∃ number, cs = "oid:0x".toList ++ number ∧ stands number id.raw.toNat

theorem ofText?_eq_some_iff {text : String} :
    ofText? text = some id ↔ id.IsSpelled (IsNumeral 16) text.toList := by
  have read {number : List Char} :
      (readUnsigned 16 UInt64.size number).toOption.map (fun value => ObjectId.mk (.ofNat value)) =
        some id ↔ IsNumeral 16 number id.raw.toNat :=
    @toOption_readUnsigned_eq_some_iff 16 UInt64.size _ _ (fun id => id.raw.toNat) (by decide)
      (fun id => id.raw.toNat_lt) (fun _ => UInt64.toNat_ofNat_of_lt')
      (fun id => congrArg ObjectId.mk UInt64.ofNat_toNat) number id
  unfold ofText?
  constructor
  · intro found
    split at found
    · next number opened => exact ⟨number, opened, read.mp found⟩
    · cases found
  · rintro ⟨number, opened, numeral⟩
    rw [opened]
    exact read.mpr numeral

theorem isSpelled_digits_iff :
    id.IsSpelled (IsDigits 16) cs ↔ id.IsSpelled (IsNumeral 16) cs ∧ '+' ∉ cs := by
  have noSign : '+' ∉ "oid:0x".toList := by decide
  constructor
  · rintro ⟨number, rfl, digits⟩
    refine ⟨⟨number, rfl, .plain digits⟩, fun sign => ?_⟩
    rcases List.mem_append.mp sign with opening | inNumber
    · exact noSign opening
    · exact (isDigits_iff.mp digits).2 inNumber
  · rintro ⟨⟨number, rfl, numeral⟩, plusless⟩
    exact ⟨number, rfl,
      isDigits_iff.mpr ⟨numeral, fun sign => plusless (List.mem_append_right _ sign)⟩⟩

theorem reads_numerals (text : String) : Reads parse (IsSpelled (IsNumeral 16)) text :=
  .of_reader (by unfold parse; cases ofText? text <;> rfl) fun _ => ofText?_eq_some_iff

theorem parse_text (id : ObjectId) : parse id.text = .ok id := by
  unfold parse
  rw [ofText?_text]

end ObjectId

/-! ## What is read -/

/--
A text is read as the MAC address, or as the object id, that it spells in
hexadecimal numerals, which may have a plus sign in front; any other text is an
invalid parameter.  So digits alone describe what is read, unless the text
spells a value with the help of a plus sign.  What is written is always read
back.
-/
theorem signed_spellings_are_read (text : String) :
    (Reads Mac.parse (Mac.IsSpelled (IsNumeral 16)) text ∧
      (Reads Mac.parse (Mac.IsSpelled (IsDigits 16)) text ↔
        '+' ∉ text.toList ∨ ∀ mac : Mac, ¬ mac.IsSpelled (IsNumeral 16) text.toList) ∧
      ∀ mac : Mac, Mac.parse mac.text = .ok mac) ∧
    (Reads ObjectId.parse (ObjectId.IsSpelled (IsNumeral 16)) text ∧
      (Reads ObjectId.parse (ObjectId.IsSpelled (IsDigits 16)) text ↔
        '+' ∉ text.toList ∨ ∀ id : ObjectId, ¬ id.IsSpelled (IsNumeral 16) text.toList) ∧
      ∀ id : ObjectId, ObjectId.parse id.text = .ok id) := by
  refine ⟨⟨Mac.reads_numerals text, ?_, ?_⟩, ⟨ObjectId.reads_numerals text, ?_, ?_⟩⟩
  · exact (Mac.reads_numerals text).iff_of_plusless Mac.isSpelled_digits_iff
  · exact fun mac => Mac.parse_text mac
  · exact (ObjectId.reads_numerals text).iff_of_plusless ObjectId.isSpelled_digits_iff
  · exact fun id => ObjectId.parse_text id

/-- Texts with a plus sign in each group, and in front of the number of an id, are read. -/
theorem plus_signs_are_no_digits :
    ¬ Reads Mac.parse (Mac.IsSpelled (IsDigits 16)) "+1:+2:+3:+4:+5:+f" ∧
      ¬ Reads ObjectId.parse (ObjectId.IsSpelled (IsDigits 16)) "oid:0x+1f" := by
  constructor
  · intro reads
    have read : Mac.parse "+1:+2:+3:+4:+5:+f" = .ok ⟨[1, 2, 3, 4, 5, 15], rfl⟩ := by
      decide +kernel
    have digits := Mac.isSpelled_digits_iff.mp ((reads.accepted _).mp read)
    exact digits.2 (by decide +kernel)
  · intro reads
    have read : ObjectId.parse "oid:0x+1f" = .ok ⟨31⟩ := by
      decide +kernel
    have digits := ObjectId.isSpelled_digits_iff.mp ((reads.accepted _).mp read)
    exact digits.2 (by decide +kernel)

end SwitchAbstraction
