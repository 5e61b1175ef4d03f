/-!
# Ordered maps

A map is the list of its bindings in strictly ascending order of their keys,
so two maps that answer every look-up alike are equal.  Keys are ordered by a
rank: a list of numbers, compared lexicographically, that no two keys share.
-/

namespace SwitchAbstraction

/-- One list of numbers comes before another, lexicographically. -/
def LexBefore : List Nat → List Nat → Prop :=
  List.Lex fun left right => left < right

instance (first second : List Nat) : Decidable (LexBefore first second) :=
  List.decidableLex (fun left right => left < right) first second

/-- Keys with an injective rank.  Ranks are compared lexicographically. -/
class Ranked (κ : Type) where
  rank : κ → List Nat
  rank_injective : ∀ {first second : κ}, rank first = rank second → first = second

namespace Ranked

variable {κ : Type} [Ranked κ]

/-- One key comes before another. -/
def Before (first second : κ) : Prop :=
  LexBefore (rank first) (rank second)

instance (first second : κ) : Decidable (Before first second) :=
  inferInstanceAs (Decidable (LexBefore (rank first) (rank second)))

/-- One key comes before another or is the same. -/
def notAfter (first second : κ) : Bool :=
  !decide (Before second first)

theorem Before.irrefl (key : κ) : ¬ Before key key :=
  List.lt_irrefl (rank key)

theorem Before.trans {first second third : κ} (left : Before first second)
    (right : Before second third) : Before first third :=
  List.lt_trans left right

theorem Before.ne {first second : κ} (before : Before first second) :
    first ≠ second := by
  rintro rfl
  exact before.irrefl

/-- Of two different keys one comes before the other. -/
theorem before_of_not_before {first second : κ} (different : first ≠ second)
    (later : ¬ Before first second) : Before second first := by
  rcases List.le_iff_lt_or_eq.mp (List.not_lt.mp later) with strict | same
  · exact strict
  · exact absurd (rank_injective same).symm different

end Ranked

instance : Ranked Nat where
  rank n := [n]
  rank_injective same := by simpa using same

instance : Ranked UInt8 where
  rank n := [n.toNat]
  rank_injective same := UInt8.toNat_inj.mp (by simpa using same)

instance : Ranked UInt32 where
  rank n := [n.toNat]
  rank_injective same := UInt32.toNat_inj.mp (by simpa using same)

instance : Ranked String where
  rank s := s.toList.map Char.toNat
  rank_injective same :=
    String.toList_inj.mp
      ((List.map_inj_right fun _ _ equal => Char.toNat_inj.mp equal).mp same)

open Ranked (Before)

/-- The bindings of a map, strictly ascending by key. -/
structure OrderedMap (κ ν : Type) [Ranked κ] where
  entries : List (κ × ν)
  sorted : entries.Pairwise fun first second => Before first.1 second.1

namespace OrderedMap

variable {κ ν : Type} [Ranked κ]

theorem eq_of_entries_eq {first second : OrderedMap κ ν}
    (same : first.entries = second.entries) : first = second := by
  cases first
  cases second
  simp_all

instance [DecidableEq κ] [DecidableEq ν] : DecidableEq (OrderedMap κ ν) :=
  fun first second =>
    decidable_of_iff (first.entries = second.entries)
      ⟨eq_of_entries_eq, fun same => by rw [same]⟩

/-- The map without bindings. -/
def empty : OrderedMap κ ν :=
  ⟨[], List.Pairwise.nil⟩

instance : EmptyCollection (OrderedMap κ ν) := ⟨empty⟩

instance : Inhabited (OrderedMap κ ν) := ⟨empty⟩

/-- The number of bindings. -/
def size (map : OrderedMap κ ν) : Nat :=
  map.entries.length

/-- The keys, in order. -/
def keys (map : OrderedMap κ ν) : List κ :=
  map.entries.map Prod.fst

/-- The values, in order of their keys. -/
def values (map : OrderedMap κ ν) : List ν :=
  map.entries.map Prod.snd

variable [DecidableEq κ]

/-- The first value bound to a key in a list of bindings. -/
def lookup (key : κ) : List (κ × ν) → Option ν
  | [] => none
  | (other, value) :: rest => if key = other then some value else lookup key rest

/-- Puts a binding at its place among ascending bindings, replacing one of the same key. -/
def place (key : κ) (value : ν) : List (κ × ν) → List (κ × ν)
  | [] => [(key, value)]
  | (other, old) :: rest =>
      if key = other then (key, value) :: rest
      else if Before key other then (key, value) :: (other, old) :: rest
      else (other, old) :: place key value rest

/-- The value bound to a key. -/
def get? (map : OrderedMap κ ν) (key : κ) : Option ν :=
  lookup key map.entries

/-- Whether a key is bound. -/
def contains (map : OrderedMap κ ν) (key : κ) : Bool :=
  (map.get? key).isSome

theorem mem_place {key : κ} {value : ν} {list : List (κ × ν)} {entry : κ × ν}
    (member : entry ∈ place key value list) : entry = (key, value) ∨ entry ∈ list := by
  induction list with
  | nil => simpa [place] using member
  | cons head rest ih =>
      obtain ⟨other, old⟩ := head
      unfold place at member
      split at member
      · rcases List.mem_cons.mp member with own | later
        · exact .inl own
        · exact .inr (List.mem_cons_of_mem _ later)
      · split at member
        · simpa using member
        · rcases List.mem_cons.mp member with own | later
          · exact .inr (own ▸ List.mem_cons_self)
          · rcases ih later with own | later
            · exact .inl own
            · exact .inr (List.mem_cons_of_mem _ later)

theorem sorted_place (key : κ) (value : ν) {list : List (κ × ν)}
    (sorted : list.Pairwise fun first second => Before first.1 second.1) :
    (place key value list).Pairwise fun first second => Before first.1 second.1 := by
  induction list with
  | nil => simp [place]
  | cons head rest ih =>
      obtain ⟨other, old⟩ := head
      rw [List.pairwise_cons] at sorted
      unfold place
      split
      · next same =>
          subst same
          exact List.pairwise_cons.mpr sorted
      · next different =>
          split
          · next before =>
              refine List.pairwise_cons.mpr ⟨fun entry member => ?_, ?_⟩
              · rcases List.mem_cons.mp member with rfl | later
                · exact before
                · exact before.trans (sorted.1 entry later)
              · exact List.pairwise_cons.mpr sorted
          · next later =>
              refine List.pairwise_cons.mpr ⟨fun entry member => ?_, ih sorted.2⟩
              rcases mem_place member with rfl | inRest
              · exact Ranked.before_of_not_before different later
              · exact sorted.1 entry inRest

/-- The map with one binding added or replaced. -/
def insert (map : OrderedMap κ ν) (key : κ) (value : ν) : OrderedMap κ ν :=
  ⟨place key value map.entries, sorted_place key value map.sorted⟩

/-- The map reduced to the bindings that pass a test. -/
def filter (map : OrderedMap κ ν) (keep : κ → ν → Bool) : OrderedMap κ ν :=
  ⟨map.entries.filter fun entry => keep entry.1 entry.2, map.sorted.filter _⟩

/-- The map without the binding of a key. -/
def erase (map : OrderedMap κ ν) (key : κ) : OrderedMap κ ν :=
  map.filter fun other _ => decide (other ≠ key)

/-- The map with every value rewritten. -/
def mapValues {μ : Type} (map : OrderedMap κ ν) (rewrite : κ → ν → μ) :
    OrderedMap κ μ :=
  ⟨map.entries.map fun entry => (entry.1, rewrite entry.1 entry.2),
    List.pairwise_map.mpr map.sorted⟩

/-- The map with the value of one key rewritten, if it is bound. -/
def modify (map : OrderedMap κ ν) (key : κ) (rewrite : ν → ν) : OrderedMap κ ν :=
  map.mapValues fun other value => if other = key then rewrite value else value

/-- The map that binds each key of a list to its last value there. -/
def ofList (list : List (κ × ν)) : OrderedMap κ ν :=
  list.foldl (fun map entry => map.insert entry.1 entry.2) empty

end OrderedMap

end SwitchAbstraction
