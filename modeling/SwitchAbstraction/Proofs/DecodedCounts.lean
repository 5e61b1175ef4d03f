import Mathlib.Data.List.Nodup
import SwitchAbstraction.Proofs.Numerals
import SwitchAbstraction.Proofs.Results
import SwitchAbstraction.Remote.Protocol

/-!
# Counts out of an answer

An answer carries the counts that were asked for as decimal fields.  The count
of each statistic is looked for by its name, so the counts come in the order
that they were asked for in, whatever the order of the fields.  Of fields that
share their name the first one counts.
-/

namespace SwitchAbstraction

namespace Remote

variable {fields other : List Field} {name text : String} {stat : Stat} {count : UInt64}

/-- The text is the value of the first field that has the name. -/
def IsFirst (fields : List Field) (name text : String) : Prop :=
  ∃ before after, fields = before ++ (name, text) :: after ∧ ∀ field ∈ before, field.1 ≠ name

/-- The text is a decimal numeral of the count, with or without a plus sign. -/
def IsCount (text : String) (count : UInt64) : Prop :=
  Text.IsNumeral 10 text.toList count.toNat

/-! ## Fields by their names -/

theorem find?_eq_some_iff :
    fields.find? (fun field => field.1 = name) = some (name, text) ↔ IsFirst fields name text := by
  rw [List.find?_eq_some_iff_append, and_iff_right (decide_eq_true rfl)]
  simp only [IsFirst, Bool.not_eq_true', decide_eq_false_iff_not, ne_eq]

/-- The field that is found has the name that was looked for. -/
theorem isFirst_of_find? {field : Field}
    (found : fields.find? (fun field => field.1 = name) = some field) :
    IsFirst fields name field.2 := by
  obtain ⟨own, text⟩ := field
  obtain rfl : own = name := by simpa using List.find?_some found
  exact find?_eq_some_iff.mp found

theorem IsFirst.mem (first : IsFirst fields name text) : (name, text) ∈ fields := by
  obtain ⟨before, after, rfl, _⟩ := first
  exact List.mem_append_right before List.mem_cons_self

theorem IsFirst.unique {text' : String} (first : IsFirst fields name text)
    (also : IsFirst fields name text') : text' = text := by
  rw [← find?_eq_some_iff] at first also
  rw [first] at also
  cases also
  rfl

theorem exists_isFirst (given : (name, text) ∈ fields) : ∃ first, IsFirst fields name first := by
  cases found : fields.find? (fun field => field.1 = name) with
  | none => exact absurd (decide_eq_true rfl) (List.find?_eq_none.mp found _ given)
  | some field => exact ⟨field.2, isFirst_of_find? found⟩

/-- Among fields of different names the first of a name is the only one. -/
theorem isFirst_iff_mem (distinct : (fields.map Prod.fst).Nodup) :
    IsFirst fields name text ↔ (name, text) ∈ fields := by
  refine ⟨IsFirst.mem, fun given => ?_⟩
  obtain ⟨first, isFirst⟩ := exists_isFirst given
  have same : (name, first) = (name, text) :=
    List.inj_on_of_nodup_map distinct isFirst.mem given rfl
  cases same
  exact isFirst

/-! ## Counts -/

theorem isCount_decimal (count : UInt64) : IsCount (Text.decimal count.toNat) count := by
  have read : Text.readUnsigned 10 UInt64.size (Text.digits 10 count.toNat) = .ok count.toNat :=
    Text.readUnsigned_digits (by decide) (by decide) count.toNat_lt
  unfold IsCount Text.decimal
  rw [String.toList_ofList]
  exact ((Text.readUnsigned_eq_ok_iff (by decide)).mp read).1

theorem countOf_eq_ok_iff :
    countOf fields stat = .ok count ↔
      ∃ text, IsFirst fields stat.name text ∧ IsCount text count := by
  constructor
  · intro decoded
    unfold countOf at decoded
    split at decoded
    · cases decoded
    · next text found =>
        split at decoded
        · next value read =>
            cases decoded
            obtain ⟨numeral, below⟩ := (Text.readUnsigned_eq_ok_iff (by decide)).mp read
            refine ⟨text, isFirst_of_find? found, ?_⟩
            unfold IsCount
            rwa [UInt64.toNat_ofNat_of_lt' below]
        · cases decoded
  · rintro ⟨text, first, isCount⟩
    unfold countOf
    rw [find?_eq_some_iff.mpr first]
    dsimp only
    rw [(Text.readUnsigned_eq_ok_iff (by decide)).mpr ⟨isCount, count.toNat_lt⟩]
    exact congrArg Except.ok UInt64.ofNat_toNat

/-- There is no count if the field is missing, or if the first one does not say a count. -/
theorem countOf_eq_error_iff :
    (∃ fault, countOf fields stat = .error fault) ↔
      (∀ text, (stat.name, text) ∉ fields) ∨
        ∃ text, IsFirst fields stat.name text ∧ ∀ count, ¬ IsCount text count := by
  constructor
  · rintro ⟨fault, failed⟩
    have uncounted {text : String} {count : UInt64} (first : IsFirst fields stat.name text) :
        ¬ IsCount text count := by
      intro isCount
      rw [countOf_eq_ok_iff.mpr ⟨text, first, isCount⟩] at failed
      cases failed
    by_cases given : ∃ text, (stat.name, text) ∈ fields
    · obtain ⟨_, given⟩ := given
      obtain ⟨text, first⟩ := exists_isFirst given
      exact .inr ⟨text, first, fun _ => uncounted first⟩
    · exact .inl (not_exists.mp given)
  · intro bad
    cases decoded : countOf fields stat with
    | error fault => exact ⟨fault, rfl⟩
    | ok count =>
        obtain ⟨text, first, isCount⟩ := countOf_eq_ok_iff.mp decoded
        rcases bad with absent | ⟨unread, isFirst, unsaid⟩
        · exact absurd first.mem (absent text)
        · rw [first.unique isFirst] at unsaid
          exact absurd isCount (unsaid count)

/-- The order of fields that have different names makes no difference. -/
theorem find?_perm (same : fields.Perm other) (distinct : (fields.map Prod.fst).Nodup)
    (name : String) :
    other.find? (fun field => field.1 = name) = fields.find? fun field => field.1 = name := by
  have distinct' : (other.map Prod.fst).Nodup := (same.map Prod.fst).nodup_iff.mp distinct
  cases found : fields.find? fun field => field.1 = name with
  | none =>
      rw [List.find?_eq_none] at found ⊢
      exact fun field member => found field (same.mem_iff.mpr member)
  | some field =>
      have first := isFirst_of_find? found
      rw [find?_eq_some_iff.mpr first] at found
      rw [← found, find?_eq_some_iff, isFirst_iff_mem distinct']
      exact same.mem_iff.mp first.mem

/--
Counts that each stand in one field, in decimal, come in the order that they
are asked for in.  There are none exactly if the field of a statistic is missing
or the first one does not say a count.  The order of fields that have different
names makes no difference, neither to the counts nor to the fault.
-/
theorem counts_come_in_request_order (stats : List Stat) (fields : List Field) :
    (∀ counts : Stat → UInt64,
      (∀ stat ∈ stats, (fields.filter fun field => field.1 = stat.name) =
        [(stat.name, Text.decimal (counts stat).toNat)]) →
      decodeCounts stats fields = .ok (stats.map counts)) ∧
    ((∃ fault, decodeCounts stats fields = .error fault) ↔
      ∃ stat ∈ stats, (∀ text, (stat.name, text) ∉ fields) ∨
        ∃ text, IsFirst fields stat.name text ∧ ∀ count, ¬ IsCount text count) ∧
    (∀ other, fields.Perm other → (fields.map Prod.fst).Nodup →
      decodeCounts stats other = decodeCounts stats fields) := by
  refine ⟨fun counts once => ?_, ?_, fun other same distinct => ?_⟩
  · have each : ∀ stat ∈ stats, countOf fields stat = .ok (counts stat) := by
      intro stat asked
      have first : IsFirst fields stat.name (Text.decimal (counts stat).toNat) := by
        rw [← find?_eq_some_iff, ← List.head?_filter, once stat asked]
        rfl
      exact countOf_eq_ok_iff.mpr ⟨_, first, isCount_decimal _⟩
    refine Results.mapM_eq_ok_iff.mpr ?_
    rw [List.forall₂_map_right_iff, List.forall₂_same]
    exact each
  · refine Results.mapM_eq_error_iff.trans ?_
    simp only [countOf_eq_error_iff]
  · have each : countOf other = countOf fields := by
      funext stat
      unfold countOf
      rw [find?_perm same distinct]
    unfold decodeCounts
    rw [each]

/-- The greatest count, a statistic that is asked for twice, and a field that nobody asked for. -/
theorem greatest_count_comes_second :
    decodeCounts [.portIfOutOctets, .portIfInOctets, .portIfOutOctets]
        [("", "x"), ("SAI_PORT_STAT_IF_IN_OCTETS", "18446744073709551615"),
          ("SAI_PORT_STAT_IF_OUT_OCTETS", "7")] = .ok [7, 18446744073709551615, 7] ∧
      decodeCounts [.portIfOutOctets, .portIfInOctets, .portIfOutOctets]
        [("SAI_PORT_STAT_IF_OUT_OCTETS", "7"), ("", "x"),
          ("SAI_PORT_STAT_IF_IN_OCTETS", "18446744073709551615")] =
            .ok [7, 18446744073709551615, 7] := by
  obtain ⟨counted, _, ordered⟩ := counts_come_in_request_order
    [.portIfOutOctets, .portIfInOctets, .portIfOutOctets]
    [("", "x"), ("SAI_PORT_STAT_IF_IN_OCTETS", "18446744073709551615"),
      ("SAI_PORT_STAT_IF_OUT_OCTETS", "7")]
  have first := counted (fun stat => if stat = .portIfInOctets then 18446744073709551615 else 7)
    (by decide +kernel)
  exact ⟨first, (ordered _ (by decide +kernel) (by decide +kernel)).trans first⟩

end Remote

end SwitchAbstraction
