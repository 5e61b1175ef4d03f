import Mathlib.Data.List.Induction
import SwitchAbstraction.Text

/-!
# Numerals read back

Digits that were written are read as the number they were written for, in
every base that has digits enough, as long as the number lies below the limit.
And nothing else is read: a text that is read has one digit at least, no other
characters but a plus sign in front, and is read as the number it stands for.
-/

namespace SwitchAbstraction.Text

variable {base limit n : Nat}

/-- A written digit is read as its value. -/
theorem digit?_digitChar {value : Nat} (below : value < base) (small : base ≤ 16) :
    digit? base (Nat.digitChar value) = some value := by
  have table : ∀ value < 16, digit? 16 (Nat.digitChar value) = some value := by decide
  have raw := table value (by omega)
  unfold digit? at raw ⊢
  obtain ⟨found, _⟩ := Option.filter_eq_some_iff.mp raw
  exact Option.filter_eq_some_iff.mpr ⟨found, by simpa using below⟩

/-- A digit has the same value in every larger base. -/
theorem digit?_of_le {other value : Nat} {c : Char} (wider : base ≤ other)
    (read : digit? base c = some value) : digit? other c = some value := by
  unfold digit? at read ⊢
  obtain ⟨found, below⟩ := Option.filter_eq_some_iff.mp read
  have := of_decide_eq_true below
  exact Option.filter_eq_some_iff.mpr ⟨found, decide_eq_true (by omega)⟩

/-- A number is written as a single digit, or as a smaller number with one more digit. -/
theorem digits_induction (wide : 1 < base) {motive : Nat → List Char → Prop}
    (single : ∀ value < base, motive value [Nat.digitChar value])
    (longer : ∀ n, base ≤ n → motive (n / base) (digits base (n / base)) →
      motive n (digits base (n / base) ++ [Nat.digitChar (n % base)])) :
    ∀ n, motive n (digits base n) := by
  intro n
  induction n using Nat.strongRecOn with
  | ind n ih =>
      unfold digits
      rw [Nat.toDigits_eq_if wide]
      split
      · next below => exact single n below
      · next above =>
          have smaller : n / base < n := Nat.div_lt_self (by omega) wide
          exact longer n (by omega) (ih (n / base) smaller)

theorem digits_ne_nil : digits base n ≠ [] :=
  Nat.toDigits_ne_nil

/-- Numbers are written in digits. -/
theorem isSome_digit?_of_mem_digits (wide : 1 < base) (small : base ≤ 16) :
    ∀ c ∈ digits base n, (digit? base c).isSome = true := by
  have last (value : Nat) (below : value < base) :
      (digit? base (Nat.digitChar value)).isSome = true := by
    rw [digit?_digitChar below small]
    rfl
  apply digits_induction wide
    (motive := fun _ cs => ∀ c ∈ cs, (digit? base c).isSome = true)
  · intro value below c written
    rw [List.mem_singleton.mp written]
    exact last value below
  · intro n above ih c written
    rcases List.mem_append.mp written with earlier | final
    · exact ih c earlier
    · rw [List.mem_singleton.mp final]
      exact last (n % base) (Nat.mod_lt n (by omega))

/-- A character that is no hexadecimal digit is in no written number. -/
theorem not_mem_digits {c : Char} (wide : 1 < base) (small : base ≤ 16)
    (other : digit? 16 c = none) : c ∉ digits base n := by
  intro written
  have digit := isSome_digit?_of_mem_digits wide small c written
  obtain ⟨value, read⟩ := Option.isSome_iff_exists.mp digit
  have wider := digit?_of_le small read
  rw [other] at wider
  cases wider

/-- Only zero is written with a zero in front. -/
theorem eq_zero_of_head?_digits (wide : 1 < base) (small : base ≤ 16) :
    (digits base n).head? = some '0' → n = 0 := by
  have zero : digit? base '0' = some 0 := @digit?_digitChar base 0 (by omega) small
  apply digits_induction wide (motive := fun n cs => cs.head? = some '0' → n = 0)
  · intro value below front
    have read := digit?_digitChar below small
    rw [Option.some.inj front, zero] at read
    exact (Option.some.inj read).symm
  · intro n above ih front
    rw [List.head?_append, List.head?_eq_some_head digits_ne_nil, Option.some_or,
      ← List.head?_eq_some_head digits_ne_nil] at front
    have positive : 0 < n / base := Nat.div_pos above (by omega)
    have := ih front
    omega

/-- Digits are read from left to right. -/
theorem readDigits_append (value : Nat) (first second : List Char) :
    readDigits base limit value (first ++ second) =
      (readDigits base limit value first).bind fun middle =>
        readDigits base limit middle second := by
  induction first generalizing value with
  | nil => rfl
  | cons c rest ih =>
      simp only [List.cons_append, readDigits]
      split
      · rfl
      · split
        · exact ih _
        · rfl

theorem readDigits_digits (wide : 1 < base) (small : base ≤ 16) :
    n < limit → readDigits base limit 0 (digits base n) = .ok n := by
  apply digits_induction wide
    (motive := fun n cs => n < limit → readDigits base limit 0 cs = .ok n)
  · intro value single below
    simp [readDigits, digit?_digitChar single small, below]
  · intro n above ih below
    have front := ih (Nat.lt_of_le_of_lt (Nat.div_le_self n base) below)
    have last : digit? base (Nat.digitChar (n % base)) = some (n % base) :=
      digit?_digitChar (Nat.mod_lt n (by omega)) small
    rw [readDigits_append, front]
    simp [Except.bind, readDigits, last, Nat.div_add_mod', below]

/-- A numeral of digits only has no sign to skip. -/
theorem readUnsigned_of_digits {cs : List Char} (given : cs ≠ [])
    (plain : ∀ c ∈ cs, (digit? base c).isSome = true) :
    readUnsigned base limit cs = readDigits base limit 0 cs := by
  have noSign : digit? base '+' = none := rfl
  cases cs with
  | nil => exact absurd rfl given
  | cons c rest =>
      have front : c ≠ '+' := by
        rintro rfl
        have digit := plain '+' List.mem_cons_self
        rw [noSign] at digit
        cases digit
      unfold readUnsigned
      split
      · next impossible => cases impossible
      · next same => exact absurd (List.cons.inj same).1 front
      · next same => exact absurd (List.cons.inj same).1 front
      · next same =>
          cases same
          rfl

/-- A written number is read back. -/
theorem readUnsigned_digits (wide : 1 < base) (small : base ≤ 16) (below : n < limit) :
    readUnsigned base limit (digits base n) = .ok n := by
  rw [readUnsigned_of_digits digits_ne_nil (isSome_digit?_of_mem_digits wide small)]
  exact readDigits_digits wide small below

/-- The two digits of a byte. -/
theorem digit?_hexByte (byte : UInt8) :
    digit? 16 (Nat.digitChar (byte.toNat / 16)) = some (byte.toNat / 16) ∧
      digit? 16 (Nat.digitChar (byte.toNat % 16)) = some (byte.toNat % 16) := by
  have range := byte.toNat_lt
  constructor
  · exact digit?_digitChar (by omega) (Nat.le_refl 16)
  · exact digit?_digitChar (by omega) (Nat.le_refl 16)

theorem isSome_digit?_of_mem_hexByte {byte : UInt8} :
    ∀ c ∈ hexByte byte, (digit? 16 c).isSome = true := by
  obtain ⟨high, low⟩ := digit?_hexByte byte
  intro c written
  rcases List.mem_cons.mp written with rfl | last
  · rw [high]
    rfl
  · rw [List.mem_singleton.mp last, low]
    rfl

/-- A written byte is read back. -/
theorem readUnsigned_hexByte (byte : UInt8) :
    readUnsigned 16 256 (hexByte byte) = .ok byte.toNat := by
  obtain ⟨high, low⟩ := digit?_hexByte byte
  have range := byte.toNat_lt
  have first : byte.toNat / 16 < 256 := by omega
  have plain : ∀ c ∈ hexByte byte, (digit? 16 c).isSome = true :=
    isSome_digit?_of_mem_hexByte
  have signless : hexByte byte ≠ [] := List.cons_ne_nil _ _
  rw [readUnsigned_of_digits signless plain]
  simp [hexByte, readDigits, high, low, first, Nat.div_add_mod', range]

/-! ## What is read -/

/-- A number in digits, the last of which counts once. -/
inductive IsDigits (base : Nat) : List Char → Nat → Prop
  | single {c : Char} {value : Nat} (digit : digit? base c = some value) :
      IsDigits base [c] value
  | more {cs : List Char} {n : Nat} {c : Char} {value : Nat} (front : IsDigits base cs n)
      (digit : digit? base c = some value) : IsDigits base (cs ++ [c]) (n * base + value)

/-- A number in digits, with or without a plus sign in front. -/
inductive IsNumeral (base : Nat) : List Char → Nat → Prop
  | plain {cs : List Char} {n : Nat} (digits : IsDigits base cs n) : IsNumeral base cs n
  | signed {cs : List Char} {n : Nat} (digits : IsDigits base cs n) :
      IsNumeral base ('+' :: cs) n

theorem IsDigits.isSome {cs : List Char} (number : IsDigits base cs n) :
    ∀ c ∈ cs, (digit? base c).isSome = true := by
  induction number with
  | single digit =>
      rw [List.forall_mem_singleton, digit]
      rfl
  | more _ digit ih =>
      refine List.forall_mem_append.mpr ⟨ih, ?_⟩
      rw [List.forall_mem_singleton, digit]
      rfl

theorem IsDigits.ne_nil {cs : List Char} (number : IsDigits base cs n) : cs ≠ [] := by
  cases number <;> simp

/-- A numeral consists of digits and a plus sign, if anything else. -/
theorem IsNumeral.plus_or_digit {cs : List Char} (numeral : IsNumeral base cs n) :
    ∀ c ∈ cs, c = '+' ∨ (digit? base c).isSome = true := by
  cases numeral with
  | plain digits => exact fun c member => .inr (digits.isSome c member)
  | signed digits =>
      exact List.forall_mem_cons.mpr ⟨.inl rfl, fun c member => .inr (digits.isSome c member)⟩

/-- A numeral without a plus sign consists of digits only. -/
theorem isDigits_iff {cs : List Char} : IsDigits base cs n ↔ IsNumeral base cs n ∧ '+' ∉ cs := by
  have noDigit : digit? base '+' = none := rfl
  constructor
  · intro digits
    refine ⟨.plain digits, fun sign => ?_⟩
    have digit := digits.isSome '+' sign
    rw [noDigit] at digit
    cases digit
  · rintro ⟨numeral, noSign⟩
    cases numeral with
    | plain digits => exact digits
    | signed digits => exact absurd List.mem_cons_self noSign

theorem readDigits_singleton {value : Nat} {c : Char} :
    readDigits base limit value [c] = .ok n ↔
      ∃ digit, digit? base c = some digit ∧ value * base + digit = n ∧ n < limit := by
  unfold readDigits
  cases digit? base c with
  | none => simp
  | some digit =>
      dsimp only
      split
      · next below =>
          simp only [readDigits, Except.ok.injEq, Option.some.injEq, exists_eq_left']
          exact ⟨fun same => ⟨same, same ▸ below⟩, And.left⟩
      · next above =>
          simp only [Option.some.injEq, exists_eq_left', reduceCtorEq, false_iff]
          rintro ⟨rfl, below⟩
          exact above below

/-- Digits are read as the number they stand for, if that lies below the limit. -/
theorem readDigits_eq_ok_iff (positive : 0 < base) {cs : List Char} (given : cs ≠ []) :
    readDigits base limit 0 cs = .ok n ↔ IsDigits base cs n ∧ n < limit := by
  constructor
  · intro read
    induction cs using List.reverseRecOn generalizing n with
    | nil => exact absurd rfl given
    | append_singleton front c ih =>
        rw [readDigits_append] at read
        cases first : readDigits base limit 0 front with
        | error defect =>
            rw [first] at read
            cases read
        | ok value =>
            rw [first] at read
            obtain ⟨digit, isDigit, rfl, below⟩ := readDigits_singleton.mp read
            refine ⟨?_, below⟩
            cases front with
            | nil =>
                cases first
                rw [Nat.zero_mul, Nat.zero_add]
                exact .single isDigit
            | cons d rest => exact .more (ih (List.cons_ne_nil d rest) first).1 isDigit
  · rintro ⟨number, below⟩
    induction number with
    | @single c value digit =>
        rw [readDigits_singleton]
        exact ⟨value, digit, by rw [Nat.zero_mul, Nat.zero_add], below⟩
    | @more front value c last number digit ih =>
        -- No digit makes a number smaller, so the limit is kept all the way.
        have kept : value < limit := by
          have grows : value * 1 ≤ value * base := Nat.mul_le_mul_left value positive
          omega
        rw [readDigits_append, ih number.ne_nil kept]
        exact readDigits_singleton.mpr ⟨last, digit, rfl, below⟩

/-- What is read is a numeral of a number below the limit. -/
theorem readUnsigned_eq_ok_iff (positive : 0 < base) {cs : List Char} :
    readUnsigned base limit cs = .ok n ↔ IsNumeral base cs n ∧ n < limit := by
  constructor
  · intro read
    unfold readUnsigned at read
    split at read
    · cases read
    · cases read
    · obtain ⟨digits, below⟩ := (readDigits_eq_ok_iff positive (List.cons_ne_nil _ _)).mp read
      exact ⟨.signed digits, below⟩
    · obtain ⟨digits, below⟩ := (readDigits_eq_ok_iff positive (List.cons_ne_nil _ _)).mp read
      exact ⟨.plain digits, below⟩
  · rintro ⟨numeral, below⟩
    cases numeral with
    | plain digits =>
        rw [readUnsigned_of_digits digits.ne_nil digits.isSome]
        exact (readDigits_eq_ok_iff positive digits.ne_nil).mpr ⟨digits, below⟩
    | @signed rest _ digits =>
        have read := (readDigits_eq_ok_iff positive digits.ne_nil).mpr ⟨digits, below⟩
        cases rest with
        | nil => exact absurd rfl digits.ne_nil
        | cons c rest => exact read

/-- A word is read from the numerals of its value, which the limit keeps in range. -/
theorem toOption_readUnsigned_eq_some_iff {α : Type} {ofNat : Nat → α} {toNat : α → Nat}
    (positive : 0 < base) (range : ∀ word, toNat word < limit)
    (there : ∀ n < limit, toNat (ofNat n) = n) (back : ∀ word, ofNat (toNat word) = word)
    {cs : List Char} {word : α} :
    (readUnsigned base limit cs).toOption.map ofNat = some word ↔
      IsNumeral base cs (toNat word) := by
  constructor
  · intro read
    cases number : readUnsigned base limit cs with
    | error defect =>
        rw [number] at read
        cases read
    | ok n =>
        rw [number] at read
        obtain rfl := Option.some.inj read
        obtain ⟨numeral, below⟩ := (readUnsigned_eq_ok_iff positive).mp number
        rwa [there n below]
  · intro numeral
    rw [(readUnsigned_eq_ok_iff positive).mpr ⟨numeral, range word⟩]
    exact congrArg some (back word)

end SwitchAbstraction.Text
