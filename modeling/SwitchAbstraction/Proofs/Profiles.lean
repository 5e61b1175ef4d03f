import Mathlib.Data.List.DropRight
import SwitchAbstraction.Configuration
import SwitchAbstraction.OrderedMap.Lemmas
import SwitchAbstraction.Proofs.Blanks

/-!
# Bindings of a profile and their listing

A line binds the text before its first equals sign to the text behind it, both
without the blanks around them.  Of the lines that bind a key the last one
counts.  Whoever asks for one binding after another gets them in ascending order
of their keys, from the first one again after each reset.
-/

namespace SwitchAbstraction

/-! ## Bindings -/

namespace Profile

variable {line : List Char} {lines : List (List Char)} {key value : String}

/-- The line binds the key: it is no comment, and the key stands before its first equals sign. -/
def Binds (line : List Char) (key value : String) : Prop :=
  ∃ before after, Text.IsPadded (before ++ '=' :: after) line ∧
    (∀ c, before.head? = some c → c ≠ '#') ∧ '=' ∉ before ∧
    Text.IsPadded key.toList before ∧ key ≠ "" ∧ Text.IsPadded value.toList after

/-- A line binds the key to the value, and no later one binds it. -/
def BindsLast (lines : List (List Char)) (key value : String) : Prop :=
  ∃ before line after, lines = before ++ line :: after ∧ Binds line key value ∧
    ∀ later ∈ after, ∀ other, ¬ Binds later key other

theorem binding?_eq_some_iff : binding? line = some (key, value) ↔ Binds line key value := by
  constructor
  · intro read
    unfold binding? at read
    split at read
    · cases read
    · cases read
    · next noHash =>
        split at read
        · cases read
        · next before after cut =>
            split at read
            · cases read
            · next named =>
                cases read
                obtain ⟨joined, noEquals⟩ := Text.cut?_eq_some cut
                have padded := Text.isPadded_trim before
                refine ⟨before, after, Text.trim_eq_iff.mp joined, ?_, noEquals, padded, ?_,
                  Text.isPadded_trim after⟩
                · rintro c start rfl
                  obtain ⟨rest, rfl⟩ := List.head?_eq_some_iff.mp start
                  exact noHash _ joined
                · exact fun empty => named ((Text.isEmpty_trim_iff padded).mpr empty)
  · rintro ⟨before, after, padded, noHash, noEquals, keyPadded, named, valuePadded⟩
    have notEmpty : ¬ (Text.trim before).isEmpty = true :=
      fun empty => named ((Text.isEmpty_trim_iff keyPadded).mp empty)
    unfold binding?
    rw [Text.trim_eq_iff.mpr padded]
    cases before with
    | nil => exact absurd rfl notEmpty
    | cons c rest =>
        split
        · next empty => cases empty
        · next same => exact absurd (List.cons.inj same).1 (noHash c rfl)
        · rw [Text.cut?_append after noEquals]
          dsimp only
          rw [if_neg notEmpty, Text.ofList_trim_eq_iff.mpr keyPadded,
            Text.ofList_trim_eq_iff.mpr valuePadded]

/-- What one line more binds, it binds last; it leaves the other keys alone. -/
theorem bindsLast_concat_iff :
    BindsLast (lines ++ [line]) key value ↔
      Binds line key value ∨ (∀ other, ¬ Binds line key other) ∧ BindsLast lines key value := by
  constructor
  · rintro ⟨before, own, after, split, binds, unbound⟩
    -- The line that was added either is the one that binds or stands behind it.
    rcases List.eq_nil_or_concat' after with rfl | ⟨between, final, rfl⟩
    · obtain ⟨_, same⟩ := List.append_inj' split rfl
      rw [List.singleton_inj.mp same]
      exact .inl binds
    · rw [← List.cons_append, ← List.append_assoc] at split
      obtain ⟨earlier, same⟩ := List.append_inj' split rfl
      rw [List.singleton_inj.mp same]
      obtain ⟨others, final⟩ := List.forall_mem_append.mp unbound
      exact .inr ⟨final _ (List.mem_singleton_self _), before, own, between, earlier, binds, others⟩
  · rintro (binds | ⟨unbound, before, own, after, rfl, binds, others⟩)
    · exact ⟨lines, line, [], rfl, binds, List.forall_mem_nil _⟩
    · refine ⟨before, own, after ++ [line], by simp, binds, ?_⟩
      exact List.forall_mem_append.mpr ⟨others, List.forall_mem_singleton.mpr unbound⟩

theorem exists_bindsLast_iff :
    (∃ value, BindsLast lines key value) ↔ ∃ line ∈ lines, ∃ value, Binds line key value := by
  constructor
  · rintro ⟨value, before, line, after, rfl, binds, _⟩
    exact ⟨line, List.mem_append_right _ List.mem_cons_self, value, binds⟩
  · rintro ⟨found, member, value, binds⟩
    induction lines using List.reverseRecOn with
    | nil => cases member
    | append_singleton lines line ih =>
        by_cases bound : ∃ other, Binds line key other
        · obtain ⟨other, own⟩ := bound
          exact ⟨other, bindsLast_concat_iff.mpr (.inl own)⟩
        · rcases List.mem_append.mp member with earlier | last
          · obtain ⟨other, others⟩ := ih earlier
            exact ⟨other, bindsLast_concat_iff.mpr (.inr ⟨not_exists.mp bound, others⟩)⟩
          · rw [List.mem_singleton.mp last] at binds
            exact absurd ⟨value, binds⟩ bound

theorem get?_ofList_filterMap_iff :
    (OrderedMap.ofList (lines.filterMap binding?)).get? key = some value ↔
      BindsLast lines key value := by
  induction lines using List.reverseRecOn generalizing value with
  | nil =>
      constructor
      · intro impossible
        cases impossible
      · rintro ⟨before, _, _, impossible, _⟩
        cases before <;> cases impossible
  | append_singleton lines line ih =>
      rw [bindsLast_concat_iff, ← ih, List.filterMap_append]
      cases read : binding? line with
      | none =>
          have unbound (other : String) : ¬ Binds line key other := by
            rw [← binding?_eq_some_iff, read]
            exact nofun
          rw [List.filterMap_cons_none read, List.filterMap_nil, List.append_nil,
            or_iff_right (unbound value), and_iff_right unbound]
      | some binding =>
          obtain ⟨name, bound⟩ := binding
          have binds (other : String) : Binds line key other ↔ key = name ∧ bound = other := by
            rw [← binding?_eq_some_iff, read, Option.some.injEq, Prod.mk.injEq, eq_comm]
          rw [List.filterMap_cons_some read, List.filterMap_nil, OrderedMap.ofList_concat,
            OrderedMap.get?_insert]
          simp only [binds]
          split
          · next same => simp [same]
          · next other => simp [other]

/-- The last one of the lines that bind a key says what it is bound to. -/
theorem get?_parse_eq_some_iff {text : String} :
    (parse text).get? key = some value ↔ BindsLast (Text.lines text.toList) key value :=
  get?_ofList_filterMap_iff

end Profile

/-! ## The listing -/

namespace Services

variable {calls : List Bool}

/-- The table after calls for the next binding, those that are true being resets. -/
def after (services : Services) (calls : List Bool) : Services :=
  calls.foldl (fun services reset => (services.next reset).2) services

/-- The answers to calls for the next binding. -/
def answers (services : Services) : List Bool → List (Option (String × String))
  | [] => []
  | reset :: rest => (services.next reset).1 :: (services.next reset).2.answers rest

/-- How many bindings have been asked for since the last reset, or since the start. -/
def asked (calls : List Bool) : Nat :=
  (calls.rtakeWhile fun reset => !reset).length

@[simp] theorem asked_concat_reset (calls : List Bool) : asked (calls ++ [true]) = 0 := by
  simp [asked]

@[simp] theorem asked_concat_next (calls : List Bool) :
    asked (calls ++ [false]) = asked calls + 1 := by
  simp [asked]

theorem asked_le (calls : List Bool) : asked calls ≤ calls.length :=
  (List.rtakeWhile_suffix _ calls).length_le

theorem asked_append_replicate (calls : List Bool) (n : Nat) :
    asked (calls ++ List.replicate n false) = asked calls + n := by
  induction n with
  | zero => simp
  | succ n ih =>
      rw [List.replicate_succ', ← List.append_assoc, asked_concat_next, ih, Nat.add_assoc]

/-- Each call is answered by the table as the calls before have left it. -/
theorem getElem?_answers (services : Services) (calls : List Bool) (n : Nat) :
    (services.answers calls)[n]? =
      calls[n]?.map fun reset => ((services.after (calls.take n)).next reset).1 := by
  induction calls generalizing services n with
  | nil => rfl
  | cons reset rest ih =>
      cases n with
      | zero => rfl
      | succ n => exact ih _ n

/-- The cursor counts the bindings that were asked for, as far as a word can. -/
theorem after_ofProfile (profile : Profile) (calls : List Bool) :
    (ofProfile profile).after calls =
      { ofProfile profile with cursor := .ofNat (asked calls) } := by
  unfold after
  induction calls using List.reverseRecOn with
  | nil => rfl
  | append_singleton calls reset ih =>
      rw [List.foldl_append, ih]
      cases reset with
      | true =>
          rw [asked_concat_reset]
          rfl
      | false =>
          rw [asked_concat_next, UInt64.ofNat_add]
          rfl

/-- A call gives the binding at the place that was reached since the last reset. -/
theorem getElem?_answers_ofProfile (profile : Profile) (few : calls.length < UInt64.size)
    (n : Nat) :
    ((ofProfile profile).answers calls)[n]? =
      calls[n]?.map fun reset =>
        if reset then Option.none else profile.entries[asked (calls.take n)]? := by
  -- The cursor has not wrapped around, as there were not calls enough.
  have below : asked (calls.take n) < UInt64.size :=
    Nat.lt_of_le_of_lt ((asked_le _).trans (List.length_take_le' n calls)) few
  rw [getElem?_answers, after_ofProfile]
  refine congrArg (calls[n]?.map ·) (funext fun reset => ?_)
  cases reset with
  | true => rfl
  | false =>
      change profile.entries[(UInt64.ofNat (asked (calls.take n))).toNat]? = _
      rw [UInt64.toNat_ofNat_of_lt' below]
      rfl

/-- The first places of a list, those behind its end being empty. -/
theorem getElem?_take_append_replicate {α : Type} (list : List α) (n i : Nat) :
    ((list.take n).map some ++ List.replicate (n - list.length) Option.none)[i]? =
      if i < n then some list[i]? else Option.none := by
  grind

/-- A pass from the first binding on gives every binding in turn, and none after the last one. -/
theorem answers_pass (profile : Profile) {before rest : List Bool} {n : Nat}
    (few : (before ++ List.replicate n false ++ rest).length < UInt64.size)
    (fresh : asked before = 0) :
    (((ofProfile profile).answers (before ++ List.replicate n false ++ rest)).drop
        before.length).take n =
      (profile.entries.take n).map some ++ List.replicate (n - profile.size) Option.none := by
  apply List.ext_getElem?
  intro i
  rw [OrderedMap.size, getElem?_take_append_replicate, List.getElem?_take, List.getElem?_drop]
  split
  · next inside =>
      have call : (before ++ List.replicate n false ++ rest)[before.length + i]? = some false := by
        rw [List.append_assoc, List.getElem?_append_right (Nat.le_add_right _ _),
          Nat.add_sub_cancel_left, List.getElem?_append_left (by simpa using inside),
          List.getElem?_replicate, if_pos inside]
      have earlier : (before ++ List.replicate n false ++ rest).take (before.length + i) =
          before ++ List.replicate i false := by
        rw [List.append_assoc, List.take_length_add_append,
          List.take_append_of_le_length (by simpa using inside.le), List.take_replicate,
          Nat.min_eq_left inside.le]
      rw [getElem?_answers_ofProfile profile few, call, earlier, asked_append_replicate, fresh,
        Nat.zero_add]
      rfl
  · rfl

/--
A profile binds a key exactly if some line does, and to what the last such line
says.  Its bindings come in strictly ascending order of their keys.  Each call
but a reset gives the binding at the place that was reached since the last
reset, or none behind the last binding; so a pass from the first binding on
gives all of them in their order, and then none.
-/
theorem last_bindings_are_listed_in_order (text : String) (calls : List Bool)
    (few : calls.length < UInt64.size) :
    (∀ key, (∃ value, (Profile.parse text).get? key = some value) ↔
      ∃ line ∈ Text.lines text.toList, ∃ value, Profile.Binds line key value) ∧
    (∀ key value, (Profile.parse text).get? key = some value ↔
      Profile.BindsLast (Text.lines text.toList) key value) ∧
    ((Profile.parse text).entries.Pairwise fun first second =>
      Ranked.Before first.1 second.1) ∧
    (∀ key value, (key, value) ∈ (Profile.parse text).entries ↔
      (Profile.parse text).get? key = some value) ∧
    (∀ n : Nat, ((ofProfile (Profile.parse text)).answers calls)[n]? =
      calls[n]?.map fun reset : Bool =>
        if reset then Option.none else (Profile.parse text).entries[asked (calls.take n)]?) ∧
    (∀ {before rest : List Bool} {n : Nat},
      calls = before ++ List.replicate n false ++ rest → asked before = 0 →
      (((ofProfile (Profile.parse text)).answers calls).drop before.length).take n =
        ((Profile.parse text).entries.take n).map some ++
          List.replicate (n - (Profile.parse text).size) Option.none) := by
  refine ⟨fun key => ?_, fun key value => Profile.get?_parse_eq_some_iff,
    (Profile.parse text).sorted, fun key value => OrderedMap.get?_eq_some_iff.symm,
    getElem?_answers_ofProfile _ few, ?_⟩
  · simp only [Profile.get?_parse_eq_some_iff]
    exact Profile.exists_bindsLast_iff
  · rintro before rest n rfl fresh
    exact answers_pass _ few fresh

/-- A key that is bound twice, a comment and blanks; the pass after a reset is as the first one. -/
theorem second_pass_is_as_first :
    Profile.BindsLast (Text.lines "B=1\n# C=2\n A = x=y \nB=3\n".toList) "B" "3" ∧
      (((ofProfile (Profile.parse "B=1\n# C=2\n A = x=y \nB=3\n")).answers
        [false, false, false, true, false, false, false]).drop 4).take 3 =
          [some ("A", "x=y"), some ("B", "3"), Option.none] := by
  have listed := last_bindings_are_listed_in_order "B=1\n# C=2\n A = x=y \nB=3\n"
    [false, false, false, true, false, false, false] (by decide)
  obtain ⟨_, last, _, _, _, pass⟩ := listed
  have second := @pass [false, false, false, true] [] 3 rfl rfl
  exact ⟨(last "B" "3").mp (by decide +kernel), second.trans (by decide +kernel)⟩

end Services

end SwitchAbstraction
