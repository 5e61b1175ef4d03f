import SwitchAbstraction.Json
import SwitchAbstraction.Proofs.Addresses
import SwitchAbstraction.Proofs.JsonTexts
import SwitchAbstraction.Vocabulary

/-!
# JSON values read back

A way of writing values as JSON and a way of reading them belong together if
what is written is readable and is read as what was written.  Words, numbers,
texts, lists and records are written and read that way as far as their parts
are.
-/

namespace SwitchAbstraction.Json

/-- What is written is readable, and is read as what was written. -/
structure Recovers {α : Type} (write : α → Json) (read? : Json → Option α) : Prop where
  isReadable : ∀ value, (write value).IsReadable
  read_write : ∀ value, read? (write value) = some value

namespace Recovers

variable {α : Type} {write : α → Json} {read? : Json → Option α}

/-- A value is read back from its JSON text. -/
theorem ofText? (recovers : Recovers write read?) (value : α) :
    (Json.ofText? (write value).text).bind read? = some value := by
  rw [ofText?_text (recovers.isReadable value)]
  exact recovers.read_write value

theorem list (recovers : Recovers write read?) : Recovers (ofList write) (list? read?) where
  isReadable items := by
    apply IsReadable.array
    intro json written
    obtain ⟨item, _, rfl⟩ := List.mem_map.mp written
    exact recovers.isReadable item
  read_write items := mapM_map_of_inverse recovers.read_write items

end Recovers

theorem recovers_string : Recovers .string string? where
  isReadable value := .string value
  read_write _ := rfl

/-- Values that have names are read back as far as their names are. -/
theorem recovers_named {α : Type} {name : α → String} {ofName? : String → Option α}
    (found : ∀ value, ofName? (name value) = some value) :
    Recovers (fun value => .string (name value)) (named? ofName?) where
  isReadable value := .string (name value)
  read_write := found

theorem recovers_word {α : Type} [Vocabulary α] :
    Recovers (fun word : α => .string (Vocabulary.name word)) (named? (Vocabulary.ofName? α)) :=
  recovers_named Vocabulary.ofName?_name

/-! ## Numbers -/

theorem natBelow?_ofNat {limit n : Nat} (below : n < limit) : natBelow? limit (ofNat n) = some n :=
  if_pos below

theorem recovers_uint8 : Recovers (fun word : UInt8 => ofNat word.toNat) uint8? where
  isReadable word := .int word.toNat
  read_write word := by
    unfold uint8?
    rw [natBelow?_ofNat word.toNat_lt]
    simp

theorem recovers_uint16 : Recovers (fun word : UInt16 => ofNat word.toNat) uint16? where
  isReadable word := .int word.toNat
  read_write word := by
    unfold uint16?
    rw [natBelow?_ofNat word.toNat_lt]
    simp

theorem recovers_uint32 : Recovers (fun word : UInt32 => ofNat word.toNat) uint32? where
  isReadable word := .int word.toNat
  read_write word := by
    unfold uint32?
    rw [natBelow?_ofNat word.toNat_lt]
    simp

theorem recovers_uint64 : Recovers (fun word : UInt64 => ofNat word.toNat) uint64? where
  isReadable word := .int word.toNat
  read_write word := by
    unfold uint64?
    rw [natBelow?_ofNat word.toNat_lt]
    simp

theorem recovers_int32 : Recovers (fun word : Int32 => .int word.toInt) int32? where
  isReadable word := .int word.toInt
  read_write word := by
    unfold int32?
    simp

/-! ## Records -/

theorem onlyMember?_of_mem {members : List (String × Json)} {name : String} {value : Json}
    (distinct : (members.map Prod.fst).Nodup) (there : (name, value) ∈ members) :
    onlyMember? name members = some value := by
  have only : members.filter (fun member => member.1 = name) = [(name, value)] := by
    induction members with
    | nil => cases there
    | cons member members ih =>
        obtain ⟨fresh, others⟩ := List.nodup_cons.mp distinct
        have none : name = member.1 → members.filter (fun other => other.1 = name) = [] := by
          rintro rfl
          rw [List.filter_eq_nil_iff]
          intro other listed same
          exact fresh (of_decide_eq_true same ▸ List.mem_map_of_mem listed)
        rcases List.mem_cons.mp there with rfl | later
        · rw [List.filter_cons_of_pos (by simp), none rfl]
        · have different : ¬ member.1 = name := by
            intro same
            exact fresh (same ▸ List.mem_map_of_mem later)
          rw [List.filter_cons_of_neg (by simpa using different), ih others later]
  unfold onlyMember?
  rw [only]

/-- A record that is written with distinct names gives back its fields. -/
theorem fields?_object {members : List (String × Json)}
    (distinct : (members.map Prod.fst).Nodup) :
    fields? (members.map Prod.fst) (.object members) = some (members.map Prod.snd) := by
  have listed : ∀ part ⊆ members, (part.map Prod.fst).mapM (onlyMember? · members) =
      some (part.map Prod.snd) := by
    intro part inside
    induction part with
    | nil => rfl
    | cons member part ih =>
        obtain ⟨own, others⟩ := List.cons_subset.mp inside
        rw [List.map_cons, List.mapM_cons, onlyMember?_of_mem distinct own, ih others]
        rfl
  exact listed members (List.Subset.refl members)

/-- A record is readable if its fields are. -/
theorem isReadable_object {members : List (String × Json)}
    (all : ∀ value ∈ members.map Prod.snd, value.IsReadable) : IsReadable (.object members) :=
  .object fun _ listed => all _ (List.mem_map_of_mem listed)

end SwitchAbstraction.Json
