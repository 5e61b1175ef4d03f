/-!
# Vocabularies

Statuses, object types, attributes, statistics and enumerated values travel as
words.  A vocabulary lists its words and knows that no two of them share a
name, so that reading a name finds exactly the word it was written for.
-/

namespace SwitchAbstraction

/-- The bytes of a text, read as the digits of one number. -/
def Text.fingerprint (text : String) : Nat :=
  text.toByteArray.data.toList.foldl (fun value byte => value * 256 + byte.toNat) 0

/-- Texts with distinct fingerprints are distinct. -/
theorem Text.nodup_of_fingerprints {texts : List String}
    (distinct : (texts.map Text.fingerprint).Nodup) : texts.Nodup :=
  List.nodup_iff_pairwise_ne.mpr <|
    (List.pairwise_map.mp (List.nodup_iff_pairwise_ne.mp distinct)).imp
      fun different same => different (congrArg _ same)

/-- A finite type whose values have distinct names. -/
class Vocabulary (α : Type) where
  /-- What a message calls a word of this vocabulary. -/
  label : String
  /-- All words, in order of declaration. -/
  words : List α
  /-- The written form of a word. -/
  name : α → String
  mem_words : ∀ word, word ∈ words
  nodup_names : (words.map name).Nodup

namespace Vocabulary

variable {α : Type} [Vocabulary α]

/-- The word with the given name. -/
def ofName? (α : Type) [Vocabulary α] (text : String) : Option α :=
  (words : List α).find? fun word => name word = text

theorem name_of_ofName? {text : String} {word : α}
    (found : ofName? α text = some word) : name word = text := by
  simpa using List.find?_some found

/-- No two words share a name. -/
theorem name_injective {first second : α} (same : name first = name second) :
    first = second := by
  have distinct := nodup_names (α := α)
  rw [List.nodup_iff_pairwise_ne, List.pairwise_map] at distinct
  have firstIn := mem_words first
  have secondIn := mem_words second
  generalize (words : List α) = all at distinct firstIn secondIn
  induction all with
  | nil => simp at firstIn
  | cons head rest ih =>
      rw [List.pairwise_cons] at distinct
      rcases List.mem_cons.mp firstIn with rfl | inRest
      · rcases List.mem_cons.mp secondIn with rfl | inRest'
        · rfl
        · exact absurd same (distinct.1 second inRest')
      · rcases List.mem_cons.mp secondIn with rfl | inRest'
        · exact absurd same.symm (distinct.1 first inRest)
        · exact ih distinct.2 inRest inRest'

/-- Reading the name of a word gives the word back. -/
@[simp] theorem ofName?_name (word : α) : ofName? α (name word) = some word := by
  unfold ofName?
  cases found : (words : List α).find? fun other => name other = name word with
  | none =>
      have missing := List.find?_eq_none.mp found word (mem_words word)
      simp at missing
  | some other =>
      have same : name other = name word := by simpa using List.find?_some found
      rw [name_injective same]

theorem ofName?_eq_some_iff {text : String} {word : α} :
    ofName? α text = some word ↔ name word = text :=
  ⟨name_of_ofName?, fun same => same ▸ ofName?_name word⟩

end Vocabulary

end SwitchAbstraction
