import SwitchAbstraction.Proofs.Flushes

/-!
# Parts of a filter that are repeated

A part that is added to a filter takes the place of the part of its kind.  So a
flush by one part more may take more than before: exactly if it replaces a part
with another value that does not stand for all types of entries.  And exactly
if no part is replaced like that, what a flush takes is let through by all the
parts that were given.
-/

namespace SwitchAbstraction

open Results

/-! ## Parts that count and parts that do not -/

namespace FdbFlushEntryType

theorem exists_covers (part : FdbFlushEntryType) : ∃ type, part.Covers type := by
  cases part with
  | dynamic => exact ⟨.dynamic, rfl⟩
  | static | all => exact ⟨.static, by trivial⟩

/-- Of two types that a flush may name, the first is about an entry that the other is not. -/
theorem exists_covers_not {first second : FdbFlushEntryType} (differ : first ≠ second)
    (less : second ≠ .all) : ∃ type, first.Covers type ∧ ¬ second.Covers type := by
  cases second with
  | all => exact absurd rfl less
  | dynamic =>
      cases first with
      | dynamic => exact absurd rfl differ
      | static | all => exact ⟨.static, by trivial, nofun⟩
  | static =>
      cases first with
      | static => exact absurd rfl differ
      | dynamic | all => exact ⟨.dynamic, by trivial, nofun⟩

end FdbFlushEntryType

namespace FlushFilter

variable {filter : FlushFilter} {attrs : List Attribute} {key : FdbKey} {stored : Attributes}
  {type : FdbEntryType}

theorem exists_covered (filter : FlushFilter) :
    ∃ type, ∀ {given}, filter.type = some given → given.Covers type := by
  cases filter.type with
  | none => exact ⟨.static, nofun⟩
  | some held =>
      obtain ⟨type, covers⟩ := held.exists_covers
      refine ⟨type, ?_⟩
      rintro _ ⟨⟩
      exact covers

/-- An entry with all that the parts which count name is selected. -/
theorem Reads.select (reads : filter.Reads attrs) (parts : ∀ part ∈ attrs, part.IsFlushPart)
    (covered : ∀ {given}, filter.type = some given → given.Covers type)
    (inDomain : key.bvId = filter.domain.getD .null)
    (onPort : stored.get? .fdbEntryBridgePortId = some (.oid (filter.bridgePort.getD .null)))
    (typed : stored.HasEntryType type) : Attribute.Select attrs key stored := by
  refine (reads.matches_iff_select parts typed).mp ⟨fun given => ?_, fun given => ?_, covered⟩
  · rw [onPort, given, Option.getD_some]
  · rw [inDomain, given, Option.getD_some]

end FlushFilter

namespace Attribute

variable {attrs : List Attribute} {attr : Attribute} {value : AttrValue} {key : FdbKey}
  {stored : Attributes}

theorem exists_last?_of_mem (member : attr ∈ attrs) :
    ∃ value, last? attrs attr.id = some value := by
  have found : (attrs.reverse.find? fun other => other.id = attr.id).isSome = true :=
    List.find?_isSome.mpr ⟨attr, List.mem_reverse.mpr member, decide_eq_true rfl⟩
  obtain ⟨first, found⟩ := Option.isSome_iff_exists.mp found
  exact ⟨first.value, congrArg (Option.map Attribute.value) found⟩

/-- A part lets a selected entry through if it counts, or if it stands for all types. -/
theorem Select.admits (select : Select attrs key stored) (entry : stored.IsEntry)
    (part : attr.IsFlushPart)
    (implied : last? attrs attr.id = some attr.value ∨
      attr.value = .s32 FdbFlushEntryType.all.code) : attr.Admits key stored := by
  rcases implied with last | all
  · exact select last
  · obtain ⟨type, typed⟩ := entry.typed
    cases part with
    | bridgePort | domain => cases all
    | entryType given =>
        obtain rfl := FdbFlushEntryType.code_injective (AttrValue.s32.inj all)
        exact (admits_entryType_iff typed).mpr trivial

/-- What is selected with one part more is selected without it, as long as it replaces no other. -/
theorem Select.of_concat (select : Select (attrs ++ [attr]) key stored) (entry : stored.IsEntry)
    (parts : ∀ part ∈ attrs, part.IsFlushPart)
    (implied : ∀ earlier, last? attrs attr.id = some earlier →
      earlier = attr.value ∨ earlier = .s32 FdbFlushEntryType.all.code) :
    Select attrs key stored := by
  intro id value last
  have part := isFlushPart_of_last? parts last
  by_cases own : attr.id = id
  · subst own
    refine select.admits entry part ((implied value last).imp_left ?_)
    rintro rfl
    exact last?_concat.trans (if_pos rfl)
  · exact select ((last?_concat.trans (if_neg own)).trans last)

/--
If a part does not count and names less than all types, then some entries are
selected that it does not let through.
-/
theorem exists_select_not_admits (parts : ∀ part ∈ attrs, part.IsFlushPart)
    (part : attr.IsFlushPart) (last : last? attrs attr.id = some value)
    (other : value ≠ attr.value) (less : attr.value ≠ .s32 FdbFlushEntryType.all.code) :
    ∃ port domain type, ∀ {key : FdbKey} {stored : Attributes}, key.bvId = domain →
      stored.get? .fdbEntryBridgePortId = some (.oid port) → stored.HasEntryType type →
      Select attrs key stored ∧ ¬ attr.Admits key stored := by
  obtain ⟨filter, _, reads⟩ := FlushFilter.exists_reads parts
  -- The entry is made to fit what the filter has held on to, of that kind and of the others.
  cases part with
  | bridgePort port =>
      obtain ⟨held, given, rfl⟩ := Option.map_eq_some_iff.mp (reads.bridgePort.symm.trans last)
      obtain ⟨type, covered⟩ := filter.exists_covered
      refine ⟨_, _, type, fun inDomain onPort typed =>
        ⟨reads.select parts covered inDomain onPort typed, fun admitted => ?_⟩⟩
      rw [given, Option.getD_some] at onPort
      exact other (Option.some.inj (onPort.symm.trans admitted))
  | domain domain =>
      obtain ⟨held, given, rfl⟩ := Option.map_eq_some_iff.mp (reads.domain.symm.trans last)
      obtain ⟨type, covered⟩ := filter.exists_covered
      refine ⟨_, _, type, fun inDomain onPort typed =>
        ⟨reads.select parts covered inDomain onPort typed, fun admitted => ?_⟩⟩
      rw [given, Option.getD_some] at inDomain
      rw [← inDomain] at other
      exact other admitted.symm
  | entryType named =>
      obtain ⟨held, given, rfl⟩ := Option.map_eq_some_iff.mp (reads.entryType.symm.trans last)
      have differ : held ≠ named := by
        rintro rfl
        exact other rfl
      have notAll : named ≠ .all := by
        rintro rfl
        exact less rfl
      obtain ⟨type, covers, apart⟩ := FdbFlushEntryType.exists_covers_not differ notAll
      refine ⟨_, _, type, fun inDomain onPort typed =>
        ⟨reads.select parts ?_ inDomain onPort typed, ?_⟩⟩
      · intro part same
        obtain rfl := Option.some.inj (given.symm.trans same)
        exact covers
      · exact fun admitted => apart ((admits_entryType_iff typed).mp admitted)

end Attribute

namespace Chassis

variable {chassis : Chassis} {index : UInt8} {switch : Switch} {now : UInt64} {key : FdbKey}
  {attrs : List Attribute} {attr : Attribute}

/-! ## What a flush takes -/

/-- A flush takes away an entry that was stored. -/
def Flushes (chassis : Chassis) (id : ObjectId) (attrs : List Attribute) (now : UInt64)
    (key : FdbKey) : Prop :=
  (∃ stored, chassis.objectAt? id.switchIndex (.fdb key) = some stored) ∧
    (chassis.step now (.call (.flush id attrs))).objectAt? id.switchIndex (.fdb key) = none

section

variable (settings : Settings) (history : List (UInt64 × Command))

theorem flushes_run_iff
    (registered : ((start settings).run history).switches.get? index = some switch)
    (parts : ∀ attr ∈ attrs, attr.IsFlushPart) (now : UInt64) :
    ((start settings).run history).Flushes switch.id attrs now key ↔
      switch.IsSelected attrs key := by
  obtain ⟨filter, read, reads⟩ := FlushFilter.exists_reads parts
  have loses := (mirrored_run settings history registered).loses_flush reads parts switch.id
  obtain ⟨rfl, _⟩ := find_id_run settings history registered
  have after : (((start settings).run history).step now (.call (.flush switch.id attrs))).objectAt?
      switch.id.switchIndex (.fdb key) =
        (switch.flush switch.id filter).2.object? (.fdb key) := by
    unfold step
    rw [outcome_flush_run settings history registered read]
    exact objectAt?_of_get? ((get?_put _).trans (if_pos rfl))
  unfold Flushes
  rw [after, objectAt?_of_get? registered]
  constructor
  · rintro ⟨⟨stored, there⟩, absent⟩
    by_contra stays
    rw [(loses.kept (show ¬ (ObjectKey.fdb key).IsAmong _ from stays)).1, there] at absent
    cases absent
  · intro selected
    exact ⟨selected.imp fun _ both => both.1, (loses.dropped selected).1⟩

theorem accepts_flush_run_iff
    (registered : ((start settings).run history).switches.get? index = some switch)
    (now : UInt64) :
    ((start settings).run history).Accepts now (.call (.flush switch.id attrs)) ↔
      ∀ attr ∈ attrs, attr.IsFlushPart := by
  unfold Accepts
  constructor
  · intro accepted
    by_contra other
    obtain ⟨fault, _, refused⟩ :=
      outcome_flush_refused ((start settings).run history) switch.id now other
    rw [refused] at accepted
    cases accepted
  · intro parts
    obtain ⟨filter, read, _⟩ := FlushFilter.exists_reads parts
    rw [outcome_flush_run settings history registered read]

end

/-! ## Entries to flush -/

/-- An entry that passes the checks is stored if it is not there yet. -/
theorem createEntry_of_absent {key : ObjectKey}
    (found : chassis.switches.find key.switchId = .ok switch)
    (passed : checkNewEntry key attrs = .ok ()) (absent : switch.object? key = none) :
    ∃ next, chassis.createEntry key attrs now = .ok ((), chassis.put key.switchId next) ∧
      next.object? key = some (.ofList attrs) := by
  obtain ⟨next, added⟩ : ∃ next, switch.addEntry key (.ofList attrs) now = .ok ((), next) := by
    unfold Switch.addEntry
    rw [Switch.insert_eq_ok_iff.mpr ⟨absent, rfl⟩]
    exact ⟨_, rfl⟩
  refine ⟨next, ?_, (Switch.object?_addEntry added key).trans (if_pos rfl)⟩
  unfold createEntry
  rw [passed, ok_bind, onSwitch_eq_ok_iff.mpr ⟨switch, next, found, added, rfl⟩]

/-- The attributes of an entry of a type that stands on a port. -/
def entryOn (type : FdbEntryType) (port : ObjectId) : List Attribute :=
  [⟨.fdbEntryType, .s32 type.code⟩, ⟨.fdbEntryBridgePortId, .oid port⟩]

/-- A switch with a single port and one entry. -/
def oneEntry (port domain : ObjectId) (type : FdbEntryType) : List (UInt64 × Command) :=
  [(0, .call (.create .switch .null [])),
    (0, .call (.createEntry (.fdb ⟨.ofSwitchIndex 0, .zero, domain⟩)
      (entryOn type port)))]

/-- Entries of all types can be stored, on any port and in any domain. -/
theorem stored_of_oneEntry (port domain : ObjectId) (type : FdbEntryType) :
    ∃ switch, ((start .singlePort).run (oneEntry port domain type)).switches.get? 0 = some switch ∧
      switch.object? (.fdb ⟨.ofSwitchIndex 0, .zero, domain⟩) =
        some (.ofList (entryOn type port)) := by
  let created := (start .singlePort).run [(0, .call (.create .switch .null []))]
  let key : ObjectKey := .fdb ⟨.ofSwitchIndex 0, .zero, domain⟩
  have index : (ObjectId.ofSwitchIndex 0).switchIndex = 0 := ObjectId.switchIndex_ofSwitchIndex 0
  have named : key.switchId.type? = some .switch := ObjectId.type?_ofSwitchIndex 0
  obtain ⟨switch, registered⟩ : ∃ switch, created.switches.get? 0 = some switch :=
    Option.isSome_iff_exists.mp (by decide +kernel)
  -- Entries come from commands that enter them, and so a new switch has none.
  have absent : switch.object? key = none := by
    have kept := @isKept_entries (fun command => command.entered? = none) (fun _ _ => False)
      fun none entered _ => nomatch none.symm.trans entered
    rw [Option.eq_none_iff_forall_ne_some]
    intro attrs stored
    exact kept.run .singlePort (by simp [Command.entered?]) registered stored rfl
  have passed : checkNewEntry key (entryOn type port) = .ok () := by
    unfold checkNewEntry
    rw [ObjectKey.checkEntry_of_entry rfl named, ok_bind]
    cases type <;> rfl
  have found : created.switches.find key.switchId = .ok switch :=
    Registry.find_eq_ok_iff.mpr ⟨named, index.symm ▸ registered⟩
  obtain ⟨next, done, there⟩ := @createEntry_of_absent created switch 0 _ key found passed absent
  refine ⟨next, ?_, there⟩
  change (created.outcome 0 (.call (.createEntry key _))).state.switches.get? 0 = _
  rw [outcome_settled rfl, done]
  exact (get?_put 0).trans (if_pos index.symm)

/-! ## Flushes by one part more -/

/--
However a chassis came about, a flush of a switch takes no entry that a flush
by other parts of a filter would leave there.
-/
def TakesNoMore (attrs others : List Attribute) : Prop :=
  ∀ {settings history index switch now key},
    ((start settings).run history).switches.get? index = some switch →
    ((start settings).run history).Accepts now (.call (.flush switch.id attrs)) →
    ((start settings).run history).Accepts now (.call (.flush switch.id others)) →
    ((start settings).run history).Flushes switch.id attrs now key →
    ((start settings).run history).Flushes switch.id others now key

/--
However a chassis came about, a flush of a switch takes only entries that all
parts of the filter let through.
-/
def TakesAdmitted (attrs : List Attribute) : Prop :=
  ∀ {settings history index switch now key},
    ((start settings).run history).switches.get? index = some switch →
    ((start settings).run history).Accepts now (.call (.flush switch.id attrs)) →
    ((start settings).run history).Flushes switch.id attrs now key →
    ∀ part ∈ attrs, ∃ stored, switch.object? (.fdb key) = some stored ∧ part.Admits key stored

theorem takesNoMore_iff {others : List Attribute} (parts : ∀ part ∈ attrs, part.IsFlushPart)
    (otherParts : ∀ part ∈ others, part.IsFlushPart) :
    TakesNoMore attrs others ↔ ∀ {settings history index switch key},
      ((start settings).run history).switches.get? index = some switch →
      switch.IsSelected attrs key → switch.IsSelected others key := by
  constructor
  · intro takes settings history index switch key registered selected
    have accepts := (accepts_flush_run_iff settings history registered 0).mpr parts
    have acceptsToo := (accepts_flush_run_iff settings history registered 0).mpr otherParts
    have taken := (flushes_run_iff settings history registered parts 0).mpr selected
    exact (flushes_run_iff settings history registered otherParts 0).mp
      (takes registered accepts acceptsToo taken)
  · intro selects settings history index switch now key registered _ _ taken
    have selected := (flushes_run_iff settings history registered parts now).mp taken
    exact (flushes_run_iff settings history registered otherParts now).mpr
      (selects registered selected)

theorem takesAdmitted_iff (parts : ∀ part ∈ attrs, part.IsFlushPart) :
    TakesAdmitted attrs ↔ ∀ {settings history index switch key stored},
      ((start settings).run history).switches.get? index = some switch →
      switch.object? (.fdb key) = some stored → Attribute.Select attrs key stored →
      ∀ part ∈ attrs, part.Admits key stored := by
  constructor
  · intro takes settings history index switch key stored registered there select part member
    have accepts := (accepts_flush_run_iff settings history registered 0).mpr parts
    have taken := (flushes_run_iff settings history registered parts 0).mpr ⟨stored, there, select⟩
    obtain ⟨_, same, admitted⟩ := takes registered accepts taken part member
    obtain rfl := Option.some.inj (there.symm.trans same)
    exact admitted
  · intro admits settings history index switch now key registered _ taken part member
    obtain ⟨stored, there, select⟩ :=
      (flushes_run_iff settings history registered parts now).mp taken
    exact ⟨stored, there, admits registered there select part member⟩

/-- An entry that a part which does not count would leave there is taken after some run. -/
theorem exists_selected_not_admitted (parts : ∀ part ∈ attrs, part.IsFlushPart)
    (part : attr.IsFlushPart) {value : AttrValue}
    (last : Attribute.last? attrs attr.id = some value) (other : value ≠ attr.value)
    (less : attr.value ≠ .s32 FdbFlushEntryType.all.code) :
    ∃ history switch key stored,
      ((start .singlePort).run history).switches.get? 0 = some switch ∧
      switch.object? (.fdb key) = some stored ∧ Attribute.Select attrs key stored ∧
      ¬ attr.Admits key stored := by
  obtain ⟨port, domain, type, selects⟩ :=
    Attribute.exists_select_not_admits parts part last other less
  obtain ⟨switch, registered, there⟩ := stored_of_oneEntry port domain type
  have onPort : (Attributes.ofList (entryOn type port)).get? .fdbEntryBridgePortId =
      some (.oid port) := by
    cases type <;> rfl
  have typed : (Attributes.ofList (entryOn type port)).HasEntryType type := by
    cases type <;> rfl
  exact ⟨oneEntry port domain type, switch, _, _, registered, there, selects rfl onPort typed⟩

theorem takesNoMore_concat_iff (parts : ∀ part ∈ attrs ++ [attr], part.IsFlushPart) :
    TakesNoMore (attrs ++ [attr]) attrs ↔
      ∀ earlier, Attribute.last? attrs attr.id = some earlier →
        earlier = attr.value ∨ earlier = .s32 FdbFlushEntryType.all.code := by
  have before := (List.forall_mem_append.mp parts).1
  rw [takesNoMore_iff parts before]
  constructor
  · intro takes earlier last
    by_contra replaced
    obtain ⟨other, less⟩ := not_or.mp replaced
    have part := Attribute.isFlushPart_of_last? before last
    obtain ⟨history, switch, key, stored, registered, there, select, left⟩ :=
      exists_selected_not_admitted parts part (Attribute.last?_concat.trans (if_pos rfl))
        (Ne.symm other) less
    obtain ⟨_, same, selected⟩ := takes registered ⟨stored, there, select⟩
    obtain rfl := Option.some.inj (there.symm.trans same)
    exact left (selected last)
  · rintro implied settings history index switch key registered ⟨stored, there, select⟩
    have entry := (mirrored_run settings history registered key).isEntry there
    exact ⟨stored, there, select.of_concat entry before implied⟩

theorem takesAdmitted_iff_counts (parts : ∀ part ∈ attrs, part.IsFlushPart) :
    TakesAdmitted attrs ↔
      ∀ part ∈ attrs, Attribute.last? attrs part.id = some part.value ∨
        part.value = .s32 FdbFlushEntryType.all.code := by
  rw [takesAdmitted_iff parts]
  constructor
  · intro admits part member
    by_contra replaced
    obtain ⟨replaced, less⟩ := not_or.mp replaced
    obtain ⟨value, last⟩ := Attribute.exists_last?_of_mem member
    have other : value ≠ part.value := by
      rintro rfl
      exact replaced last
    obtain ⟨history, switch, key, stored, registered, there, select, left⟩ :=
      exists_selected_not_admitted parts (parts part member) last other less
    exact left (admits registered there select part member)
  · intro implied settings history index switch key stored registered there select part member
    have entry := (mirrored_run settings history registered key).isEntry there
    exact select.admits entry (parts part member) (implied part member)

/--
A flush by one part more never takes more, exactly if the part replaces none,
or one with the same value, or one that stands for all types of entries.  A
flush takes only entries that all its parts let through, exactly if each part
has the value of the last one of its kind or stands for all types of entries.
-/
theorem repeated_parts_replace_earlier (attrs : List Attribute) (attr : Attribute) :
    (TakesNoMore (attrs ++ [attr]) attrs ↔
      ((∀ part ∈ attrs ++ [attr], part.IsFlushPart) →
        ∀ earlier, Attribute.last? attrs attr.id = some earlier →
          earlier = attr.value ∨ earlier = .s32 FdbFlushEntryType.all.code)) ∧
    (TakesAdmitted attrs ↔
      ((∀ part ∈ attrs, part.IsFlushPart) →
        ∀ part ∈ attrs, Attribute.last? attrs part.id = some part.value ∨
          part.value = .s32 FdbFlushEntryType.all.code)) := by
  constructor
  · by_cases parts : ∀ part ∈ attrs ++ [attr], part.IsFlushPart
    · rw [takesNoMore_concat_iff parts]
      exact ⟨fun implied _ => implied, fun implied => implied parts⟩
    · refine ⟨fun _ areParts => absurd areParts parts, fun _ => ?_⟩
      intro settings history index switch now key registered accepted
      exact absurd ((accepts_flush_run_iff settings history registered now).mp accepted) parts
  · by_cases parts : ∀ part ∈ attrs, part.IsFlushPart
    · rw [takesAdmitted_iff_counts parts]
      exact ⟨fun implied _ => implied, fun implied => implied parts⟩
    · refine ⟨fun _ areParts => absurd areParts parts, fun _ => ?_⟩
      intro settings history index switch now key registered accepted
      exact absurd ((accepts_flush_run_iff settings history registered now).mp accepted) parts

/-- One entry in the default VLAN. -/
def oneSighting : List (UInt64 × Command) :=
  [(0, .call (.create .switch .null [])), (5, .learn inVlan onlyPort)]

/-- The part that selects the entries of the default bridge. -/
def inBridge : Attribute :=
  ⟨.fdbFlushBvId, .oid (.compose 0 .bridge 5)⟩

/-- The part that selects the entries of the default VLAN. -/
def inDefaultVlan : Attribute :=
  ⟨.fdbFlushBvId, .oid inVlan.bvId⟩

theorem second_domain_takes_more : ¬ TakesNoMore ([inBridge] ++ [inDefaultVlan]) [inBridge] := by
  intro takes
  obtain ⟨switch, registered⟩ : ∃ switch,
      ((start .singlePort).run oneSighting).switches.get? 0 = some switch :=
    Option.isSome_iff_exists.mp (by decide +kernel)
  have own : switch.id = .ofSwitchIndex 0 :=
    isKept_id.run .singlePort (fun _ _ => trivial) registered
  have areParts : ∀ part ∈ [inBridge] ++ [inDefaultVlan], part.IsFlushPart :=
    List.forall_mem_cons.mpr ⟨.domain _, List.forall_mem_singleton.mpr (.domain _)⟩
  have accepts {parts : List Attribute} (given : ∀ part ∈ parts, part.IsFlushPart) :=
    (accepts_flush_run_iff .singlePort oneSighting registered 9).mpr given
  have fewer := @takes _ _ _ _ _ inVlan registered (accepts areParts)
    (accepts (List.forall_mem_append.mp areParts).1)
  rw [own] at fewer
  have stored : (((start .singlePort).run oneSighting).objectAt?
      (ObjectId.ofSwitchIndex 0).switchIndex (.fdb inVlan)).isSome = true := by
    decide +kernel
  have taken : (((start .singlePort).run oneSighting).step 9
      (.call (.flush (.ofSwitchIndex 0) ([inBridge] ++ [inDefaultVlan])))).objectAt?
        (ObjectId.ofSwitchIndex 0).switchIndex (.fdb inVlan) = none := by
    decide +kernel
  have stays : (((start .singlePort).run oneSighting).step 9
      (.call (.flush (.ofSwitchIndex 0) [inBridge]))).objectAt?
        (ObjectId.ofSwitchIndex 0).switchIndex (.fdb inVlan) ≠ none := by
    decide +kernel
  exact stays (fewer ⟨Option.isSome_iff_exists.mp stored, taken⟩).2

end Chassis

end SwitchAbstraction
