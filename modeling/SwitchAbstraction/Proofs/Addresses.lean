import Mathlib.Data.List.Forall2
import Mathlib.Data.List.TakeWhile
import SwitchAbstraction.Address
import SwitchAbstraction.Proofs.Numerals

/-!
# Addresses read back

The text of every address and every network is read as that address or
network.  The delicate case is a version 6 address with a run of zeros: the
text shows where the run stands but not how long it is, which follows from the
number of groups around it.
-/

namespace SwitchAbstraction

open Text

/-- Items that are written one by one are read one by one. -/
theorem mapM_map_of_inverse {m : Type → Type} [Monad m] [LawfulMonad m] {α β : Type}
    {read : β → m α} {write : α → β} (inverse : ∀ item, read (write item) = pure item)
    (items : List α) : (items.map write).mapM read = pure items := by
  have composed : read ∘ write = fun item => pure (id item) := funext inverse
  rw [List.mapM_map, composed, List.mapM_pure, List.map_id]

theorem mapM_eq_some_iff {α β : Type} {read : α → Option β} {items : List α} {values : List β} :
    items.mapM read = some values ↔
      List.Forall₂ (fun item value => read item = some value) items values := by
  induction items generalizing values with
  | nil => cases values <;> simp
  | cons item rest ih =>
      rw [List.mapM_cons]
      cases first : read item with
      | none => cases values <;> simp [first]
      | some value =>
          cases others : rest.mapM read with
          | none =>
              cases values with
              | nil => simp
              | cons given more => simp [first, ← ih, others]
          | some found =>
              cases values with
              | nil => simp
              | cons given more => simp [first, ← ih, others]

theorem exists_of_mapM {α β : Type} {read : α → Option β} {items : List α} {values : List β}
    (all : items.mapM read = some values) : ∀ item ∈ items, ∃ value, read item = some value := by
  have each := mapM_eq_some_iff.mp all
  clear all
  induction each with
  | nil => exact List.forall_mem_nil _
  | cons own _ ih => exact List.forall_mem_cons.mpr ⟨⟨_, own⟩, ih⟩

/-! ## MAC addresses -/

namespace Mac

theorem octet?_hexByte (octet : UInt8) : octet? (hexByte octet) = some octet := by
  have two : (hexByte octet).length = 2 := rfl
  unfold octet?
  rw [if_pos two, readUnsigned_hexByte]
  simp [Except.toOption]

/-- The text of an address is read as that address. -/
theorem ofText?_text (mac : Mac) : ofText? mac.text = some mac := by
  obtain ⟨octets, six⟩ := mac
  have plain : ∀ part ∈ octets.map hexByte, ∀ c ∈ part,
      (decide (c = ':') || decide (c = '-')) = false := by
    intro part member c written
    obtain ⟨octet, _, rfl⟩ := List.mem_map.mp member
    have digit := isSome_digit?_of_mem_hexByte c written
    rw [Bool.or_eq_false_iff, decide_eq_false_iff_not, decide_eq_false_iff_not]
    constructor
    · rintro rfl
      cases digit
    · rintro rfl
      cases digit
  have given : octets.map hexByte ≠ [] := by
    intro none
    rw [List.map_eq_nil_iff.mp none] at six
    cases six
  have separates : (decide (':' = ':') || decide (':' = '-')) = true := rfl
  unfold ofText? text
  rw [String.toList_ofList, pieces_intercalate separates plain given,
    mapM_map_of_inverse octet?_hexByte]
  exact dif_pos six

end Mac

/-! ## Version 4 addresses -/

namespace Ipv4

theorem octet?_digits (octet : UInt8) : octet? (digits 10 octet.toNat) = some octet := by
  have range := octet.toNat_lt
  have short : (digits 10 octet.toNat).length ≤ 3 :=
    (Nat.length_toDigits_le_iff (by decide) (by decide)).mpr (by omega)
  have decimal : (digits 10 octet.toNat).all Char.isDigit = true := by
    rw [List.all_eq_true]
    intro c written
    exact Nat.isDigit_of_mem_toDigits (by decide) (by decide) written
  have zero : (digits 10 octet.toNat).head? = some '0' → (digits 10 octet.toNat).length = 1 := by
    intro front
    rw [eq_zero_of_head?_digits (by decide) (by decide) front]
    rfl
  unfold octet?
  rw [if_pos ⟨short, decimal, zero⟩, readUnsigned_digits (by decide) (by decide) (by omega)]
  simp [Except.toOption]

theorem read?_write (address : Ipv4) : read? address.write = some address := by
  obtain ⟨octets, four⟩ := address
  have plain : ∀ part ∈ octets.map (fun octet => digits 10 octet.toNat), ∀ c ∈ part,
      decide (c = '.') = false := by
    intro part member c written
    obtain ⟨octet, _, rfl⟩ := List.mem_map.mp member
    rw [decide_eq_false_iff_not]
    rintro rfl
    exact not_mem_digits (by decide) (by decide) rfl written
  have given : octets.map (fun octet => digits 10 octet.toNat) ≠ [] := by
    intro none
    rw [List.map_eq_nil_iff.mp none] at four
    cases four
  unfold read? write
  rw [pieces_intercalate rfl plain given, mapM_map_of_inverse octet?_digits]
  exact dif_pos four

/-- What is read as an address consists of digits and dots. -/
theorem isDigit_of_read? {cs : List Char} {address : Ipv4} (read : read? cs = some address)
    {c : Char} (inside : c ∈ cs) (noDot : c ≠ '.') : c.isDigit = true := by
  have piecewise : ∃ piece ∈ pieces (· = '.') cs, c ∈ piece :=
    mem_pieces_of_mem inside (by simpa using noDot)
  obtain ⟨piece, found, within⟩ := piecewise
  obtain ⟨octets, all, _⟩ := Option.bind_eq_some_iff.mp read
  obtain ⟨octet, own⟩ := exists_of_mapM all piece found
  unfold octet? at own
  split at own
  · next shape => exact List.all_eq_true.mp shape.2.1 c within
  · cases own

theorem colon_not_mem_write (address : Ipv4) : ':' ∉ address.write := by
  intro inside
  have digit := isDigit_of_read? address.read?_write inside (by decide)
  cases digit

theorem slash_not_mem_write (address : Ipv4) : '/' ∉ address.write := by
  intro inside
  have digit := isDigit_of_read? address.read?_write inside (by decide)
  cases digit

theorem dot_mem_write (address : Ipv4) : '.' ∈ address.write := by
  obtain ⟨octets, four⟩ := address
  match octets, four with
  | [a, b, c, d], _ => simp [write, List.intercalate_cons_cons]

end Ipv4

/-! ## Version 6 addresses -/

namespace Ipv6

/-- Groups as they are written, without the colons between them. -/
def words (groups : List UInt16) : List (List Char) :=
  groups.map fun group => digits 16 group.toNat

theorem group?_digits (group : UInt16) : group? (digits 16 group.toNat) = some group := by
  have range := group.toNat_lt
  have short : (digits 16 group.toNat).length ≤ 4 :=
    (Nat.length_toDigits_le_iff (by decide) (by decide)).mpr (by omega)
  have hexadecimal : (digits 16 group.toNat).all (fun c => (digit? 16 c).isSome) = true := by
    rw [List.all_eq_true]
    exact isSome_digit?_of_mem_digits (by decide) (by decide)
  unfold group?
  rw [if_pos ⟨short, hexadecimal⟩, readUnsigned_digits (by decide) (by decide) (by omega)]
  simp [Except.toOption]

/-- A written group is not empty and holds no colon. -/
def IsWord (word : List Char) : Prop :=
  word ≠ [] ∧ ':' ∉ word

theorem isWord_of_mem {groups : List UInt16} : ∀ word ∈ words groups, IsWord word := by
  intro word written
  obtain ⟨group, _, rfl⟩ := List.mem_map.mp written
  exact ⟨digits_ne_nil, not_mem_digits (by decide) (by decide) rfl⟩

/-! ### Where the double colon stands -/

theorem cutGap?_cons {c : Char} {rest : List Char}
    (noGap : ¬ (c = ':' ∧ rest.head? = some ':')) :
    cutGap? (c :: rest) = (cutGap? rest).map fun parts => (c :: parts.1, parts.2) := by
  rw [cutGap?.eq_def]
  split
  · next same =>
      obtain ⟨rfl, rfl⟩ := List.cons.inj same
      exact absurd ⟨rfl, rfl⟩ noGap
  · next same =>
      obtain ⟨rfl, rfl⟩ := List.cons.inj same
      rfl
  · next impossible => cases impossible

theorem cutGap?_append_plain {word : List Char} (plain : ':' ∉ word) (rest : List Char) :
    cutGap? (word ++ rest) = (cutGap? rest).map fun parts => (word ++ parts.1, parts.2) := by
  induction word with
  | nil => exact Option.map_id'.symm
  | cons c word ih =>
      have own : c ≠ ':' := fun same => plain (same ▸ List.mem_cons_self)
      have others : ':' ∉ word := fun later => plain (List.mem_cons_of_mem _ later)
      rw [List.cons_append, cutGap?_cons fun gap => own gap.1, ih others, Option.map_map]
      rfl

/-- Words with single colons between them hold no gap. -/
theorem cutGap?_intercalate_append {words : List (List Char)} (all : ∀ word ∈ words, IsWord word)
    (rest : List Char) :
    cutGap? ([':'].intercalate words ++ rest) =
      (cutGap? rest).map fun parts => ([':'].intercalate words ++ parts.1, parts.2) := by
  induction words with
  | nil => exact Option.map_id'.symm
  | cons first words ih =>
      have own := all first List.mem_cons_self
      cases words with
      | nil =>
          have single : [':'].intercalate [first] = first := by simp [List.intercalate]
          rw [single]
          exact cutGap?_append_plain own.2 rest
      | cons second words =>
          have later := ih fun word member => all word (List.mem_cons_of_mem _ member)
          have next := all second (List.mem_cons_of_mem _ List.mem_cons_self)
          -- Behind a single colon stands the first digit of the next word.
          have noGap : ¬ (':' = ':' ∧
              ([':'].intercalate (second :: words) ++ rest).head? = some ':') := by
            rintro ⟨_, colon⟩
            cases second with
            | nil => exact next.1 rfl
            | cons c second =>
                cases words with
                | nil =>
                    have front : c = ':' := by simpa [List.intercalate] using colon
                    exact next.2 (front ▸ List.mem_cons_self)
                | cons third words =>
                    have front : c = ':' := by simpa [List.intercalate_cons_cons] using colon
                    exact next.2 (front ▸ List.mem_cons_self)
          rw [List.intercalate_cons_cons, List.append_assoc, List.append_assoc,
            cutGap?_append_plain own.2, List.singleton_append, cutGap?_cons noGap, later,
            Option.map_map, Option.map_map]
          simp [Function.comp_def]

/-! ### Reading groups -/

theorem fields_of_ne_nil {cs : List Char} (given : cs ≠ []) :
    fields cs = pieces (· = ':') cs := by
  unfold fields
  rw [if_neg (by simpa using given)]

theorem fields_writeGroups (groups : List UInt16) : fields (writeGroups groups) = words groups := by
  cases groups with
  | nil => rfl
  | cons group groups =>
      have given : words (group :: groups) ≠ [] := List.cons_ne_nil _ _
      have plain : ∀ word ∈ words (group :: groups), ∀ c ∈ word, decide (c = ':') = false := by
        intro word written c inside
        rw [decide_eq_false_iff_not]
        rintro rfl
        exact (isWord_of_mem word written).2 inside
      have whole : pieces (· = ':') (writeGroups (group :: groups)) = words (group :: groups) :=
        pieces_intercalate (by decide) plain given
      have visible : writeGroups (group :: groups) ≠ [] := by
        intro empty
        rw [empty] at whole
        have nothing : [] ∈ words (group :: groups) := by
          rw [← whole]
          exact List.mem_singleton_self []
        exact (isWord_of_mem [] nothing).1 rfl
      rw [fields_of_ne_nil visible, whole]

theorem groups?_words (groups : List UInt16) : groups? (words groups) = some groups := by
  induction groups with
  | nil => rfl
  | cons group groups ih =>
      have first := group?_digits group
      cases groups with
      | nil => simp [words, groups?, first]
      | cons next groups =>
          change (do
            let group ← group? (digits 16 group.toNat)
            let others ← groups? (words (next :: groups))
            return group :: others) = _
          rw [first, ih]
          rfl

/-- Eight groups without a gap are read one by one. -/
theorem read?_writeGroups (address : Ipv6) : read? (writeGroups address.groups) = some address := by
  have noGap : cutGap? (writeGroups address.groups) = none := by
    have cut := cutGap?_intercalate_append (@isWord_of_mem address.groups) []
    rw [List.append_nil] at cut
    exact cut
  unfold read?
  rw [noGap]
  change (groups? (fields (writeGroups address.groups))).bind ofGroups? = some address
  rw [fields_writeGroups, groups?_words]
  exact dif_pos address.length_groups

/-- A gap stands for as many zeros as there are groups missing. -/
theorem read?_gap (address : Ipv6) {front back : List UInt16} {run : Nat} (zeros : 0 < run)
    (whole : address.groups = front ++ List.replicate run 0 ++ back) {after : List Char}
    (later : groups? (fields after) = some back) :
    read? (writeGroups front ++ ':' :: ':' :: after) = some address := by
  have cut : cutGap? (writeGroups front ++ ':' :: ':' :: after) =
      some (writeGroups front, after) := by
    have gap : cutGap? (':' :: ':' :: after) = some ([], after) := by rw [cutGap?]
    have cut := cutGap?_intercalate_append (@isWord_of_mem front) (':' :: ':' :: after)
    rw [gap, Option.map_some, List.append_nil] at cut
    exact cut
  have earlier : (fields (writeGroups front)).mapM group? = some front := by
    rw [fields_writeGroups]
    exact mapM_map_of_inverse group?_digits front
  have eight := address.length_groups
  rw [whole, List.length_append, List.length_append, List.length_replicate] at eight
  have missing : 8 - (front.length + back.length) = run := by omega
  unfold read?
  rw [cut]
  simp only [earlier, later, Option.bind_eq_bind, Option.bind_some, missing]
  rw [if_neg (by omega), ← whole]
  exact dif_pos address.length_groups

/-- A run of zeros is written as long as it is. -/
theorem eq_replicate_append_drop (groups : List UInt16) :
    groups = List.replicate (zeroRun groups) 0 ++ groups.drop (zeroRun groups) := by
  have zeros : groups.takeWhile (· = 0) = List.replicate (zeroRun groups) 0 := by
    rw [List.eq_replicate_iff]
    refine ⟨rfl, ?_⟩
    intro group member
    simpa using List.mem_takeWhile_imp member
  have parts : groups.takeWhile (· = 0) ++ groups.dropWhile (· = 0) = groups :=
    List.takeWhile_append_dropWhile
  have rest : groups.drop (zeroRun groups) = groups.dropWhile (· = 0) := by
    calc
      groups.drop (zeroRun groups) =
          (groups.takeWhile (· = 0) ++ groups.dropWhile (· = 0)).drop (zeroRun groups) := by
        rw [parts]
      _ = groups.dropWhile (· = 0) := List.drop_left' rfl
  rw [rest, ← zeros, parts]

/-! ### Mapped addresses -/

/-- A dotted address is not a group. -/
theorem group?_write (inner : Ipv4) : group? inner.write = none := by
  unfold group?
  rw [if_neg]
  rintro ⟨_, digits⟩
  have dot := List.all_eq_true.mp digits '.' inner.dot_mem_write
  cases dot

/-- A group is put together again from its two octets. -/
theorem join_octets (group : UInt16) :
    UInt16.ofNat ((UInt8.ofNat (group.toNat / 256)).toNat * 256 +
      (UInt8.ofNat (group.toNat % 256)).toNat) = group := by
  have range := group.toNat_lt
  have quotient : (UInt8.ofNat (group.toNat / 256)).toNat = group.toNat / 256 := by
    rw [UInt8.toNat_ofNat']
    omega
  have remainder : (UInt8.ofNat (group.toNat % 256)).toNat = group.toNat % 256 := by
    rw [UInt8.toNat_ofNat']
    omega
  rw [quotient, remainder, Nat.div_add_mod', UInt16.ofNat_toNat]

theorem groups_of_mapped {address : Ipv6} {inner : Ipv4} (mapped : address.mapped? = some inner) :
    address.groups = [] ++ List.replicate 5 0 ++ 0xffff :: inner.groups := by
  unfold mapped? at mapped
  split at mapped
  · next high low same =>
      cases mapped
      unfold Ipv4.groups
      dsimp only
      rw [same, join_octets high, join_octets low]
      rfl
  · cases mapped

/-- A dotted address may stand in the last place, where it counts for two groups. -/
theorem groups?_mapped (inner : Ipv4) :
    groups? (fields ("ffff:".toList ++ inner.write)) = some (0xffff :: inner.groups) := by
  have word : ∀ c ∈ ['f', 'f', 'f', 'f'], decide (c = ':') = false := by
    intro c inside
    have letter : c = 'f' := @List.eq_of_mem_replicate Char 'f' c 4 inside
    rw [letter]
    rfl
  have dotted : ∀ c ∈ inner.write, decide (c = ':') = false := by
    intro c inside
    rw [decide_eq_false_iff_not]
    rintro rfl
    exact inner.colon_not_mem_write inside
  have parts : pieces (· = ':') ("ffff:".toList ++ inner.write) =
      [['f', 'f', 'f', 'f'], inner.write] := by
    change pieces (· = ':') (['f', 'f', 'f', 'f'] ++ ':' :: inner.write) = _
    rw [pieces_append word (by decide), pieces_of_plain dotted]
  have first : group? ['f', 'f', 'f', 'f'] = some 0xffff := by decide
  rw [fields_of_ne_nil (by simp), parts]
  simp [groups?, first, group?_write, inner.read?_write]

theorem read?_mapped (address : Ipv6) {inner : Ipv4} (mapped : address.mapped? = some inner) :
    read? ("::ffff:".toList ++ inner.write) = some address :=
  read?_gap address (show 0 < 5 by decide) (groups_of_mapped mapped) (groups?_mapped inner)

/-- The text of a version 6 address is read as that address. -/
theorem read?_write (address : Ipv6) : read? address.write = some address := by
  unfold write
  cases mapped : address.mapped? with
  | some inner => exact read?_mapped address mapped
  | none =>
      generalize longestZeroRun address.groups = start
      dsimp only
      split
      · next long =>
          have whole : address.groups = address.groups.take start ++
              List.replicate (zeroRun (address.groups.drop start)) 0 ++
                address.groups.drop (start + zeroRun (address.groups.drop start)) := by
            rw [List.append_assoc, ← List.drop_drop, ← eq_replicate_append_drop,
              List.take_append_drop]
          have later : groups? (fields (writeGroups
              (address.groups.drop (start + zeroRun (address.groups.drop start))))) =
                some (address.groups.drop (start + zeroRun (address.groups.drop start))) := by
            rw [fields_writeGroups, groups?_words]
          rw [List.append_assoc]
          exact read?_gap address (by omega) whole later
      · exact read?_writeGroups address

theorem slash_not_mem_writeGroups (groups : List UInt16) : '/' ∉ writeGroups groups := by
  intro inside
  have piecewise : ∃ piece ∈ pieces (· = ':') (writeGroups groups), '/' ∈ piece :=
    mem_pieces_of_mem inside (by decide)
  obtain ⟨word, found, within⟩ := piecewise
  rw [← fields_of_ne_nil (List.ne_nil_of_mem inside), fields_writeGroups] at found
  obtain ⟨group, _, rfl⟩ := List.mem_map.mp found
  exact not_mem_digits (by decide) (by decide) rfl within

/-- No address is written with a slash. -/
theorem slash_not_mem_write (address : Ipv6) : '/' ∉ address.write := by
  unfold write
  cases address.mapped? with
  | some inner => simp [inner.slash_not_mem_write]
  | none =>
      dsimp only
      split
      · simp [slash_not_mem_writeGroups]
      · exact slash_not_mem_writeGroups _

/-- Every version 6 address is written with a colon. -/
theorem colon_mem_write (address : Ipv6) : ':' ∈ address.write := by
  unfold write
  cases address.mapped? with
  | some inner => simp
  | none =>
      dsimp only
      split
      · simp
      · obtain ⟨groups, eight⟩ := address
        match groups, eight with
        | a :: b :: rest, _ =>
            simp [writeGroups, List.intercalate_cons_cons]

end Ipv6

/-! ## Addresses and networks -/

namespace Ip

theorem read?_write (address : Ip) : read? address.write = some address := by
  cases address with
  | v4 address =>
      have read := address.read?_write
      simp [read?, write, read]
  | v6 address =>
      have other : Ipv4.read? address.write = none := by
        cases read : Ipv4.read? address.write with
        | none => rfl
        | some inner =>
            have digit := Ipv4.isDigit_of_read? read address.colon_mem_write (by decide)
            cases digit
      have read := address.read?_write
      simp [read?, write, other, read]

/-- The text of an address is read as that address. -/
theorem ofText?_text (address : Ip) : ofText? address.text = some address := by
  unfold ofText? text
  rw [String.toList_ofList]
  exact read?_write address

end Ip

namespace IpNetwork

/-- The text of a network is read as that network. -/
theorem parse_text (network : IpNetwork) : parse network.text = .ok network := by
  obtain ⟨address, length, fits⟩ := network
  have slashless : '/' ∉ address.write := by
    cases address with
    | v4 address => exact address.slash_not_mem_write
    | v6 address => exact address.slash_not_mem_write
  have cut : cut? '/' (address.write ++ '/' :: digits 10 length) =
      some (address.write, digits 10 length) := cut?_append _ slashless
  have written : (text ⟨address, length, fits⟩).toList =
      address.write ++ '/' :: digits 10 length := by
    simp [text, Ip.text, decimal]
  have short : length < 256 := by
    cases address with
    | v4 address => exact Nat.lt_of_le_of_lt fits (show 32 < 256 by decide)
    | v6 address => exact Nat.lt_of_le_of_lt fits (show 128 < 256 by decide)
  unfold parse
  rw [written, cut]
  dsimp only
  rw [address.read?_write, readUnsigned_digits (by decide) (by decide) short]
  exact dif_pos fits

end IpNetwork

end SwitchAbstraction
