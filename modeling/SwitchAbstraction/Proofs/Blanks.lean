import Mathlib.Data.List.TakeWhile
import SwitchAbstraction.Text

/-!
# Texts with blanks around them

A text is trimmed to what stands between the blanks at its ends: to the one part
of it that is preceded and followed by nothing but blanks, and that neither
begins nor ends with one.
-/

namespace SwitchAbstraction.Text

/-- A text with blanks around it; without them it neither begins nor ends with a blank. -/
def IsPadded (inner cs : List Char) : Prop :=
  ∃ left right, cs = left ++ inner ++ right ∧
    (∀ c ∈ left, isBlank c = true) ∧ (∀ c ∈ right, isBlank c = true) ∧
    (∀ c, inner.head? = some c → isBlank c = false) ∧
    ∀ c, inner.getLast? = some c → isBlank c = false

theorem dropWhile_isBlank_append {left cs : List Char} (blank : ∀ c ∈ left, isBlank c = true)
    (start : ∀ c, cs.head? = some c → isBlank c = false) :
    (left ++ cs).dropWhile isBlank = cs := by
  rw [List.dropWhile_append_of_pos blank]
  cases cs with
  | nil => rfl
  | cons c rest => rw [List.dropWhile_cons, start c rfl, if_neg Bool.false_ne_true]

/-- Dropping blanks leaves a text that does not begin with one. -/
theorem isBlank_of_head?_dropWhile {cs : List Char} {c : Char}
    (start : (cs.dropWhile isBlank).head? = some c) : isBlank c = false := by
  have plain := List.head?_dropWhile_not isBlank cs
  rw [start] at plain
  exact plain

/-- A text is trimmed to what stands between its blanks, and there is only one such. -/
theorem trim_eq_iff {inner cs : List Char} : trim cs = inner ↔ IsPadded inner cs := by
  constructor
  · rintro rfl
    let front := cs.dropWhile isBlank
    let back := front.reverse.dropWhile isBlank
    have split : front = trim cs ++ (front.reverse.takeWhile isBlank).reverse := by
      have whole : front.reverse.takeWhile isBlank ++ back = front.reverse :=
        List.takeWhile_append_dropWhile
      rw [trim, ← List.reverse_append, whole, List.reverse_reverse]
    refine ⟨cs.takeWhile isBlank, (front.reverse.takeWhile isBlank).reverse, ?_, ?_, ?_, ?_, ?_⟩
    · rw [List.append_assoc, ← split]
      exact List.takeWhile_append_dropWhile.symm
    · exact fun c member => List.mem_takeWhile_imp member
    · exact fun c member => List.mem_takeWhile_imp (List.mem_reverse.mp member)
    · intro c start
      apply @isBlank_of_head?_dropWhile cs c
      change front.head? = some c
      rw [split, List.head?_append, start, Option.some_or]
    · intro c last
      apply @isBlank_of_head?_dropWhile front.reverse c
      rwa [trim, List.getLast?_reverse] at last
  · rintro ⟨left, right, rfl, blankLeft, blankRight, start, last⟩
    have trimmedRight : (inner ++ right).reverse.dropWhile isBlank = inner.reverse := by
      rw [List.reverse_append]
      apply dropWhile_isBlank_append
      · exact fun c member => blankRight c (List.mem_reverse.mp member)
      · intro c first
        rw [List.head?_reverse] at first
        exact last c first
    cases inner with
    | nil =>
        have all : ∀ c ∈ left ++ right, isBlank c = true :=
          List.forall_mem_append.mpr ⟨blankLeft, blankRight⟩
        rw [List.append_nil, trim, List.dropWhile_eq_nil_iff.mpr all]
        rfl
    | cons c rest =>
        have trimmedLeft : (left ++ (c :: rest ++ right)).dropWhile isBlank = c :: rest ++ right :=
          dropWhile_isBlank_append blankLeft start
        rw [List.append_assoc, trim, trimmedLeft, trimmedRight, List.reverse_reverse]

/-- A text is trimmed to a word that stands between blanks. -/
theorem ofList_trim_eq_iff {word : String} {cs : List Char} :
    String.ofList (trim cs) = word ↔ IsPadded word.toList cs := by
  rw [← trim_eq_iff, ← String.toList_inj, String.toList_ofList]

theorem isPadded_trim (cs : List Char) : IsPadded (String.ofList (trim cs)).toList cs :=
  ofList_trim_eq_iff.mp rfl

theorem isEmpty_trim_iff {word : String} {cs : List Char} (padded : IsPadded word.toList cs) :
    (trim cs).isEmpty = true ↔ word = "" := by
  rw [trim_eq_iff.mpr padded, List.isEmpty_iff, String.toList_eq_nil_iff]

end SwitchAbstraction.Text
