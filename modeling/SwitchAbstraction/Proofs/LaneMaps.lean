import Mathlib.Data.List.Nodup
import SwitchAbstraction.Configuration
import SwitchAbstraction.Proofs.Addresses
import SwitchAbstraction.Proofs.Blanks

/-!
# Which lines of a lane map are taken

An entry stands on a line that gives its name, a colon and its lanes, with
blanks anywhere around them.  The lines of a text are gone through in order, and
what is taken from a line depends on the lines before it only.  No name and no
lane is shared by two entries that were taken; but a line may name a lane
twice.  A line is passed over if one of its lanes belongs to an entry taken
before, or if its name stands on any line before, taken or not.
-/

namespace SwitchAbstraction

/-! ## Entries on lines -/

namespace LaneMapEntry

/-- A lane as it is written: a decimal number with blanks around it. -/
def IsLane (part : List Char) (lane : UInt32) : Prop :=
  ∃ digits, Text.IsPadded digits part ∧ Text.IsNumeral 10 digits lane.toNat

/-- The entry is what a name and parts between commas spell, one part for each of its lanes. -/
structure IsSpelled (entry : LaneMapEntry) (name : List Char) (parts : List (List Char)) :
    Prop where
  noColon : ':' ∉ name
  name : Text.IsPadded entry.name.toList name
  named : entry.name ≠ ""
  lanes : List.Forall₂ IsLane parts entry.lanes
  given : entry.lanes ≠ []

/-- Nothing that the entry names belongs to one of some others. -/
def IsFree (entry : LaneMapEntry) (others : List LaneMapEntry) : Prop :=
  ∀ other ∈ others, other.name ≠ entry.name ∧ ∀ lane ∈ entry.lanes, lane ∉ other.lanes

/-- The entry stands on a line that has blanks around it and is no comment. -/
def IsOn (entry : LaneMapEntry) (line : List Char) : Prop :=
  ∃ name parts, entry.IsSpelled name parts ∧
    Text.IsPadded (name ++ ':' :: [','].intercalate parts) line ∧
    ∀ c, name.head? = some c → c ≠ '#' ∧ c ≠ ';'

theorem IsLane.not_mem {part : List Char} {lane : UInt32} (isLane : IsLane part lane) :
    ',' ∉ part := by
  obtain ⟨digits, ⟨left, right, rfl, blankLeft, blankRight, _, _⟩, numeral⟩ := isLane
  have notBlank : Text.isBlank ',' ≠ true := by decide
  have notInDigits : ',' ∉ digits := by
    intro member
    rcases numeral.plus_or_digit _ member with sign | digit
    · cases sign
    · cases digit
  rw [List.mem_append, List.mem_append]
  rintro ((member | member) | member)
  · exact notBlank (blankLeft _ member)
  · exact notInDigits member
  · exact notBlank (blankRight _ member)

theorem not_mem_of_forall₂ {parts : List (List Char)} {lanes : List UInt32}
    (each : List.Forall₂ IsLane parts lanes) : ∀ part ∈ parts, ',' ∉ part :=
  ((List.forall₂_and_left _ _).mp (each.imp fun _ _ isLane => ⟨isLane.not_mem, isLane⟩)).1

end LaneMapEntry

namespace LaneMap

variable {line part : List Char} {lane : UInt32} {entry : LaneMapEntry}

open LaneMapEntry (IsLane)

theorem lane?_eq_some_iff : lane? part = some lane ↔ IsLane part lane := by
  have read : lane? part = some lane ↔ Text.IsNumeral 10 (Text.trim part) lane.toNat :=
    Text.toOption_readUnsigned_eq_some_iff (by decide) (fun word => word.toNat_lt)
      (fun _ => UInt32.toNat_ofNat_of_lt') fun _ => UInt32.ofNat_toNat
  constructor
  · intro found
    exact ⟨_, Text.trim_eq_iff.mp rfl, read.mp found⟩
  · rintro ⟨digits, padded, numeral⟩
    rw [read, Text.trim_eq_iff.mpr padded]
    exact numeral

theorem entry?_eq_some_iff {cs : List Char} :
    entry? cs = some entry ↔
      ∃ name parts, entry.IsSpelled name parts ∧ cs = name ++ ':' :: [','].intercalate parts := by
  constructor
  · intro read
    obtain ⟨⟨name, written⟩, cut, read⟩ := Option.bind_eq_some_iff.mp read
    obtain ⟨lanes, all, read⟩ := Option.bind_eq_some_iff.mp read
    obtain ⟨joined, noColon⟩ := Text.cut?_eq_some cut
    have each := mapM_eq_some_iff.mp all
    simp only [lane?_eq_some_iff] at each
    split at read
    · cases read
    · next named =>
        obtain rfl := Option.some.inj read
        have padded := Text.isPadded_trim name
        refine ⟨name, Text.pieces (· = ',') written, ⟨noColon, padded, ?_, each, ?_⟩, ?_⟩
        · exact fun empty => named ((Text.isEmpty_trim_iff padded).mpr empty)
        · rintro rfl
          exact Text.pieces_ne_nil _ _ (List.forall₂_nil_right_iff.mp each)
        · rw [Text.intercalate_pieces, joined]
  · rintro ⟨name, parts, ⟨noColon, padded, named, lanes, given⟩, rfl⟩
    have plain : ∀ part ∈ parts, ∀ c ∈ part, decide (c = ',') = false := by
      rintro part member c inside
      refine decide_eq_false ?_
      rintro rfl
      exact LaneMapEntry.not_mem_of_forall₂ lanes part member inside
    have someParts : parts ≠ [] := by
      rintro rfl
      exact given (List.forall₂_nil_left_iff.mp lanes)
    have pieces : Text.pieces (· = ',') ([','].intercalate parts) = parts :=
      Text.pieces_intercalate (decide_eq_true rfl) plain someParts
    have all : parts.mapM lane? = some entry.lanes := by
      rw [mapM_eq_some_iff]
      simp only [lane?_eq_some_iff]
      exact lanes
    have notEmpty : ¬ (Text.trim name).isEmpty = true :=
      fun empty => named ((Text.isEmpty_trim_iff padded).mp empty)
    unfold entry?
    rw [Text.cut?_append _ noColon]
    change ((Text.pieces (· = ',') ([','].intercalate parts)).mapM lane?).bind _ = _
    rw [pieces, all, Option.bind_some, if_neg notEmpty, Text.ofList_trim_eq_iff.mpr padded]

/-- An entry is read from a line exactly if it stands there. -/
theorem lineEntry?_eq_some_iff : lineEntry? line = some entry ↔ entry.IsOn line := by
  constructor
  · intro read
    unfold lineEntry? at read
    split at read
    · cases read
    · cases read
    · cases read
    · next _ noHash noSemicolon =>
        obtain ⟨name, parts, spelled, trimmed⟩ := entry?_eq_some_iff.mp read
        refine ⟨name, parts, spelled, Text.trim_eq_iff.mp trimmed, ?_⟩
        intro c start
        obtain ⟨rest, rfl⟩ := List.head?_eq_some_iff.mp start
        constructor
        · rintro rfl
          exact noHash _ trimmed
        · rintro rfl
          exact noSemicolon _ trimmed
  · rintro ⟨name, parts, spelled, padded, noComment⟩
    have read : entry? (name ++ ':' :: [','].intercalate parts) = some entry :=
      entry?_eq_some_iff.mpr ⟨name, parts, spelled, rfl⟩
    unfold lineEntry?
    rw [Text.trim_eq_iff.mpr padded]
    cases name with
    | nil => exact read
    | cons c rest =>
        obtain ⟨noHash, noSemicolon⟩ := noComment c rfl
        split
        · next empty => cases empty
        · next same => exact absurd (List.cons.inj same).1 noHash
        · next same => exact absurd (List.cons.inj same).1 noSemicolon
        · exact read

theorem isOn_unique {other : LaneMapEntry} (isOn : entry.IsOn line) (alsoOn : other.IsOn line) :
    other = entry := by
  rw [← lineEntry?_eq_some_iff] at isOn alsoOn
  exact Option.some.inj (alsoOn.symm.trans isOn)

/-! ## Going through the lines -/

/-- What has been read when the end of some lines is reached. -/
def readAll (lines : List (List Char)) : Reading :=
  (lines.filterMap lineEntry?).foldl Reading.add .start

/-- The entries that are taken from lines. -/
def taken (lines : List (List Char)) : List LaneMapEntry :=
  (readAll lines).entries

/-- Some line gives the name, whether its entry is taken or not. -/
def Names (lines : List (List Char)) (name : String) : Prop :=
  ∃ line ∈ lines, ∃ entry : LaneMapEntry, entry.IsOn line ∧ entry.name = name

/-- Names are met on the lines, and the lanes in use are those of the entries taken. -/
structure Reading.Follows (lines : List (List Char)) (reading : Reading) : Prop where
  names : ∀ name, name ∈ reading.names ↔ Names lines name
  lanes : ∀ lane, lane ∈ reading.lanes ↔ ∃ entry ∈ reading.entries, lane ∈ entry.lanes

variable {lines : List (List Char)} {reading : Reading} {name : String}

theorem entries_parse (text : String) :
    (parse text).entries = taken (Text.lines text.toList) := rfl

theorem names_concat_iff_of_isOn (isOn : entry.IsOn line) :
    Names (lines ++ [line]) name ↔ Names lines name ∨ entry.name = name := by
  constructor
  · rintro ⟨other, member, given, alsoOn, rfl⟩
    rcases List.mem_append.mp member with earlier | last
    · exact .inl ⟨other, earlier, given, alsoOn, rfl⟩
    · rw [List.mem_singleton.mp last] at alsoOn
      exact .inr (congrArg LaneMapEntry.name (isOn_unique isOn alsoOn).symm)
  · rintro (⟨other, member, named⟩ | same)
    · exact ⟨other, List.mem_append_left _ member, named⟩
    · exact ⟨line, List.mem_append_right _ (List.mem_singleton.mpr rfl), entry, isOn, same⟩

theorem readAll_concat_of_isOn (isOn : entry.IsOn line) :
    readAll (lines ++ [line]) = (readAll lines).add entry := by
  have read := lineEntry?_eq_some_iff.mpr isOn
  unfold readAll
  rw [List.filterMap_append, List.filterMap_cons_some read, List.filterMap_nil, List.foldl_append]
  rfl

/-- A line without an entry makes no difference. -/
theorem readAll_concat_of_not_isOn (nothing : ∀ entry : LaneMapEntry, ¬ entry.IsOn line) :
    readAll (lines ++ [line]) = readAll lines ∧
      ∀ name, Names (lines ++ [line]) name ↔ Names lines name := by
  have unread : lineEntry? line = none := by
    rw [Option.eq_none_iff_forall_ne_some]
    exact fun entry read => nothing entry (lineEntry?_eq_some_iff.mp read)
  constructor
  · unfold readAll
    rw [List.filterMap_append, List.filterMap_cons_none unread, List.filterMap_nil,
      List.append_nil]
  · intro name
    constructor
    · rintro ⟨other, member, given, isOn, same⟩
      rcases List.mem_append.mp member with earlier | last
      · exact ⟨other, earlier, given, isOn, same⟩
      · rw [List.mem_singleton.mp last] at isOn
        exact absurd isOn (nothing given)
    · rintro ⟨other, member, named⟩
      exact ⟨other, List.mem_append_left _ member, named⟩

/-- An entry is added if its name was not met and its lanes are not in use. -/
theorem Reading.entries_add (reading : Reading) (entry : LaneMapEntry) :
    (entry.name ∉ reading.names ∧ (∀ lane ∈ entry.lanes, lane ∉ reading.lanes) ∧
      reading.add entry = ⟨entry.name :: reading.names, entry.lanes ++ reading.lanes,
        reading.entries ++ [entry]⟩) ∨
    (entry.name ∉ reading.names ∧ ¬ (∀ lane ∈ entry.lanes, lane ∉ reading.lanes) ∧
      reading.add entry = { reading with names := entry.name :: reading.names }) ∨
    (entry.name ∈ reading.names ∧ reading.add entry = reading) := by
  unfold add
  split
  · next met => exact .inr (.inr ⟨met, rfl⟩)
  · next fresh =>
      split
      · next used =>
          obtain ⟨lane, own, inUse⟩ := List.any_eq_true.mp used
          exact .inr (.inl ⟨fresh, fun unused => unused lane own (of_decide_eq_true inUse), rfl⟩)
      · next unused =>
          refine .inl ⟨fresh, fun lane own inUse => unused ?_, rfl⟩
          exact List.any_eq_true.mpr ⟨lane, own, decide_eq_true inUse⟩

theorem Reading.Follows.add (follows : reading.Follows lines) (isOn : entry.IsOn line) :
    (reading.add entry).Follows (lines ++ [line]) := by
  have names (name : String) : name ∈ entry.name :: reading.names ↔
      Names (lines ++ [line]) name := by
    rw [names_concat_iff_of_isOn isOn, List.mem_cons, follows.names, or_comm, eq_comm]
  rcases reading.entries_add entry with ⟨_, _, added⟩ | ⟨_, _, added⟩ | ⟨met, added⟩
  · rw [added]
    refine ⟨names, fun lane => ?_⟩
    simp only [List.mem_append, List.mem_singleton, follows.lanes, or_and_right, exists_or,
      exists_eq_left, or_comm]
  · rw [added]
    exact ⟨names, follows.lanes⟩
  · rw [added]
    refine ⟨fun name => ?_, follows.lanes⟩
    rw [← names, List.mem_cons, or_iff_right_of_imp]
    rintro rfl
    exact met

theorem follows_readAll (lines : List (List Char)) : (readAll lines).Follows lines := by
  induction lines using List.reverseRecOn with
  | nil => exact ⟨by simp [readAll, Reading.start, Names], by simp [readAll, Reading.start]⟩
  | append_singleton lines line ih =>
      by_cases given : ∃ entry : LaneMapEntry, entry.IsOn line
      · obtain ⟨entry, isOn⟩ := given
        rw [readAll_concat_of_isOn isOn]
        exact ih.add isOn
      · obtain ⟨same, names⟩ :=
          @readAll_concat_of_not_isOn line lines (not_exists.mp given)
        rw [same]
        exact ⟨fun name => (ih.names name).trans (names name).symm, ih.lanes⟩

/-! ## What is taken from a line -/

/-- From one line more, its entry is taken or nothing. -/
theorem taken_concat (lines : List (List Char)) (line : List Char) :
    taken (lines ++ [line]) = taken lines ∨
      ∃ entry : LaneMapEntry, entry.IsOn line ∧
        taken (lines ++ [line]) = taken lines ++ [entry] := by
  unfold taken
  by_cases given : ∃ entry : LaneMapEntry, entry.IsOn line
  · obtain ⟨entry, isOn⟩ := given
    rw [readAll_concat_of_isOn isOn]
    rcases (readAll lines).entries_add entry with ⟨_, _, added⟩ | ⟨_, _, added⟩ | ⟨_, added⟩
    · rw [added]
      exact .inr ⟨entry, isOn, rfl⟩
    · rw [added]
      exact .inl rfl
    · rw [added]
      exact .inl rfl
  · obtain ⟨unchanged, _⟩ := @readAll_concat_of_not_isOn line lines (not_exists.mp given)
    exact .inl (congrArg Reading.entries unchanged)

/-- What is taken later comes from the later lines, in their order. -/
theorem exists_taken_append (before after : List (List Char)) :
    ∃ later, taken (before ++ after) = taken before ++ later ∧
      later.Sublist (after.filterMap lineEntry?) := by
  induction after using List.reverseRecOn with
  | nil => exact ⟨[], by simp, List.nil_sublist _⟩
  | append_singleton after line ih =>
      obtain ⟨later, same, sublist⟩ := ih
      rw [← List.append_assoc, List.filterMap_append]
      obtain unchanged | ⟨entry, isOn, added⟩ := taken_concat (before ++ after) line
      · rw [unchanged]
        exact ⟨later, same, sublist.trans (List.sublist_append_left _ _)⟩
      · rw [List.filterMap_cons_some (lineEntry?_eq_some_iff.mpr isOn), added, same]
        exact ⟨later ++ [entry], List.append_assoc _ _ _, sublist.append_right [entry]⟩

/-- What is taken stands on the lines. -/
theorem exists_isOn_of_mem_taken (member : entry ∈ taken lines) :
    ∃ line ∈ lines, entry.IsOn line := by
  obtain ⟨later, same, sublist⟩ := exists_taken_append [] lines
  rw [List.nil_append] at same
  rw [same] at member
  obtain ⟨line, inside, read⟩ := List.mem_filterMap.mp (sublist.subset member)
  exact ⟨line, inside, lineEntry?_eq_some_iff.mp read⟩

theorem taken_subset_append (before after : List (List Char)) :
    taken before ⊆ taken (before ++ after) := by
  obtain ⟨later, same, _⟩ := exists_taken_append before after
  rw [same]
  exact List.subset_append_left _ _

theorem taken_concat_of_isOn (isOn : entry.IsOn line) :
    ((entry.IsFree (taken lines) ∧ ¬ Names lines entry.name) →
      taken (lines ++ [line]) = taken lines ++ [entry]) ∧
    (¬ (entry.IsFree (taken lines) ∧ ¬ Names lines entry.name) →
      taken (lines ++ [line]) = taken lines) := by
  obtain ⟨names, lanes⟩ := follows_readAll lines
  unfold taken
  rw [readAll_concat_of_isOn isOn]
  rcases (readAll lines).entries_add entry with
    ⟨fresh, unused, added⟩ | ⟨_, used, added⟩ | ⟨met, added⟩
  · rw [added]
    refine ⟨fun _ => rfl, fun kept => absurd ⟨?_, fun named => fresh ((names _).mpr named)⟩ kept⟩
    intro other member
    constructor
    · intro same
      obtain ⟨earlier, inside, otherOn⟩ := exists_isOn_of_mem_taken member
      exact fresh ((names _).mpr ⟨earlier, inside, other, otherOn, same⟩)
    · exact fun lane own inUse => unused lane own ((lanes lane).mpr ⟨other, member, inUse⟩)
  · rw [added]
    refine ⟨fun free => absurd (fun lane own inUse => ?_) used, fun _ => rfl⟩
    obtain ⟨other, member, alsoOwn⟩ := (lanes lane).mp inUse
    exact (free.1 other member).2 lane own alsoOwn
  · rw [added]
    exact ⟨fun free => absurd ((names _).mp met) free.2, fun _ => rfl⟩

/--
The entry on a line is taken exactly if nothing that it names belongs to an
entry taken before, and its name is on no line before.
-/
theorem taken_concat_iff_of_isOn (isOn : entry.IsOn line) :
    (taken (lines ++ [line]) = taken lines ++ [entry] ↔
      entry.IsFree (taken lines) ∧ ¬ Names lines entry.name) ∧
    (taken (lines ++ [line]) = taken lines ↔
      ¬ (entry.IsFree (taken lines) ∧ ¬ Names lines entry.name)) := by
  obtain ⟨takes, passes⟩ := @taken_concat_of_isOn line entry lines isOn
  have longer : taken lines ++ [entry] ≠ taken lines := by simp
  refine ⟨⟨fun added => ?_, takes⟩, fun same free => ?_, passes⟩
  · by_contra kept
    exact longer (added.symm.trans (passes kept))
  · exact longer ((takes free).symm.trans same)

/-- No two of the entries that are taken share their name or a lane. -/
theorem pairwise_taken (lines : List (List Char)) :
    (taken lines).Pairwise fun first second =>
      first.name ≠ second.name ∧ first.lanes.Disjoint second.lanes := by
  induction lines using List.reverseRecOn with
  | nil => exact .nil
  | append_singleton lines line ih =>
      obtain unchanged | ⟨entry, isOn, added⟩ := taken_concat lines line
      · rw [unchanged]
        exact ih
      · obtain ⟨free, _⟩ := (taken_concat_iff_of_isOn isOn).1.mp added
        rw [added, List.pairwise_append]
        refine ⟨ih, List.pairwise_singleton _ _, fun other member own same => ?_⟩
        obtain rfl := List.mem_singleton.mp same
        obtain ⟨differ, apart⟩ := free other member
        exact ⟨differ, fun lane inOther inOwn => apart lane inOwn inOther⟩

/-! ## Maps that assign each lane once -/

/-- Entries have names of their own and lanes, and no lane is given twice. -/
structure AssignsOnce (map : LaneMap) : Prop where
  names : (map.entries.map LaneMapEntry.name).Nodup
  named : ∀ entry ∈ map.entries, entry.name ≠ ""
  given : ∀ entry ∈ map.entries, entry.lanes ≠ []
  lanes : (map.entries.flatMap LaneMapEntry.lanes).Nodup

/--
The entries that are read from a text stand on its lines, have different names
and share no lanes.  So each lane is assigned once, exactly if no line from
which an entry is taken names a lane twice.
-/
theorem lanes_repeat_on_one_line_only (text : String) :
    ((parse text).entries.map LaneMapEntry.name).Nodup ∧
    (∀ entry ∈ (parse text).entries, entry.name ≠ "" ∧ entry.lanes ≠ [] ∧
      ∃ line ∈ Text.lines text.toList, entry.IsOn line) ∧
    ((parse text).entries.Pairwise fun first second => first.lanes.Disjoint second.lanes) ∧
    ((parse text).AssignsOnce ↔ ∀ line ∈ Text.lines text.toList,
      ∀ entry ∈ (parse text).entries, entry.IsOn line → entry.lanes.Nodup) := by
  have pairwise := pairwise_taken (Text.lines text.toList)
  have names : ((parse text).entries.map LaneMapEntry.name).Nodup :=
    List.pairwise_map.mpr (pairwise.imp And.left)
  have apart : (parse text).entries.Pairwise fun first second =>
      first.lanes.Disjoint second.lanes :=
    pairwise.imp And.right
  have written : ∀ entry ∈ (parse text).entries, entry.name ≠ "" ∧ entry.lanes ≠ [] ∧
      ∃ line ∈ Text.lines text.toList, entry.IsOn line := by
    intro entry member
    obtain ⟨line, inside, name, parts, spelled, isOn⟩ := exists_isOn_of_mem_taken member
    exact ⟨spelled.named, spelled.given, line, inside, name, parts, spelled, isOn⟩
  refine ⟨names, written, apart, ?_, ?_⟩
  · intro once line _ entry member _
    exact (List.nodup_flatMap.mp once.lanes).1 entry member
  · intro lines
    refine ⟨names, fun entry member => (written entry member).1,
      fun entry member => (written entry member).2.1, List.nodup_flatMap.mpr ⟨?_, apart⟩⟩
    intro entry member
    obtain ⟨_, _, line, inside, isOn⟩ := written entry member
    exact lines line inside entry member isOn

/-- A line that names a lane twice is taken, and so the lane is assigned twice. -/
theorem repeated_lane_is_assigned_twice : ¬ (parse "Ethernet0:1,1").AssignsOnce := by
  intro once
  have lanes : (parse "Ethernet0:1,1").entries.flatMap LaneMapEntry.lanes = [1, 1] := by
    decide +kernel
  have distinct := once.lanes
  rw [lanes] at distinct
  cases distinct with
  | cons differ _ => exact differ 1 (List.mem_singleton.mpr rfl) rfl

/-! ## Lines that should be taken -/

/-- The lines of a text are taken if nothing that they name belongs to an entry taken before. -/
def TakesFreeLines (text : String) : Prop :=
  ∀ {before line after entry}, Text.lines text.toList = before ++ line :: after →
    entry.IsOn line → entry.IsFree (taken before) →
    taken (before ++ [line]) = taken before ++ [entry]

/--
What is taken from the lines up to some point comes first, and after it what is
taken from the others, in their order.  The entry on a line is taken exactly if
nothing that it names belongs to an entry taken before and its name is on no
line before.  So the lines of a text are all taken that should be, exactly if
no line that was passed over has the name of such a line after it.
-/
theorem passed_lines_block_their_names (text : String) :
    (∀ {before after}, Text.lines text.toList = before ++ after →
      ∃ later, (parse text).entries = taken before ++ later ∧
        later.Sublist (after.filterMap lineEntry?)) ∧
    (∀ {before line after entry}, Text.lines text.toList = before ++ line :: after →
      entry.IsOn line →
      (taken (before ++ [line]) = taken before ++ [entry] ↔
        entry.IsFree (taken before) ∧ ¬ Names before entry.name) ∧
      (taken (before ++ [line]) = taken before ↔
        ¬ (entry.IsFree (taken before) ∧ ¬ Names before entry.name))) ∧
    (TakesFreeLines text ↔
      ∀ {first passed second line after} {other entry : LaneMapEntry},
        Text.lines text.toList = first ++ passed :: second ++ line :: after →
        other.IsOn passed → taken (first ++ [passed]) = taken first →
        entry.IsOn line → entry.IsFree (taken (first ++ passed :: second)) →
        other.name ≠ entry.name) := by
  refine ⟨?_, ?_, ?_, ?_⟩
  · intro before after split
    rw [entries_parse, split]
    exact exists_taken_append before after
  · intro before line _ entry _ isOn
    exact taken_concat_iff_of_isOn isOn
  · intro takes first passed second line after other entry split otherOn _ isOn free same
    have named : Names (first ++ passed :: second) entry.name :=
      ⟨passed, by simp, other, otherOn, same⟩
    exact ((taken_concat_iff_of_isOn isOn).1.mp (takes split isOn free)).2 named
  · intro differ before line after entry split isOn free
    refine (taken_concat_iff_of_isOn isOn).1.mpr ⟨free, ?_⟩
    rintro ⟨earlier, member, other, otherOn, same⟩
    obtain ⟨first, second, rfl⟩ := List.append_of_mem member
    -- The earlier line was passed over, since its entry would not have left the name free.
    have passed : taken (first ++ [earlier]) = taken first := by
      refine (taken_concat_iff_of_isOn otherOn).2.mpr fun takes => ?_
      have added := (taken_concat_iff_of_isOn otherOn).1.mpr takes
      have inside : other ∈ taken (first ++ [earlier]) := by
        rw [added]
        exact List.mem_append_right _ (List.mem_singleton.mpr rfl)
      have kept := taken_subset_append (first ++ [earlier]) second inside
      rw [List.append_assoc, List.singleton_append] at kept
      exact (free other kept).1 same
    exact differ split otherOn passed isOn free same

/--
A line that is passed over since its lane is in use keeps its name from the
next line, which could have been taken.
-/
theorem passed_line_blocks_free_line :
    ¬ TakesFreeLines "Ethernet0:1\nEthernet4:1\nEthernet4:2" := by
  intro takes
  let before := ["Ethernet0:1".toList, "Ethernet4:1".toList]
  have isOn : LaneMapEntry.IsOn ⟨"Ethernet4", [2]⟩ "Ethernet4:2".toList :=
    lineEntry?_eq_some_iff.mp (by decide +kernel)
  have first : taken before = [⟨"Ethernet0", [1]⟩] := by
    decide +kernel
  have free : LaneMapEntry.IsFree ⟨"Ethernet4", [2]⟩ (taken before) := by
    rw [first]
    have other : (2 : UInt32) ∉ [1] := by decide
    exact List.forall_mem_singleton.mpr ⟨by decide, List.forall_mem_singleton.mpr other⟩
  have passed : taken (before ++ ["Ethernet4:2".toList]) = taken before := by
    decide +kernel
  have added := @takes before _ [] _ (by decide +kernel) isOn free
  rw [passed] at added
  cases List.self_eq_append_right.mp added

end LaneMap

end SwitchAbstraction
