import SwitchAbstraction.Proofs.Moves

/-!
# Runs of commands

What every move of the allowed commands preserves holds along every run of
them.  A property of single switches holds of every switch that is ever
registered, if new switches have it and nothing that happens to a switch takes
it away.
-/

namespace SwitchAbstraction

/-- Settings of a switch with a single front panel port, the smallest with all kinds of objects. -/
def Settings.singlePort : Settings :=
  ⟨.bcm56850, .cold, ⟨[⟨"Ethernet0", [1]⟩]⟩, false⟩

/-- What every move of a command preserves, the moves of the command preserve together. -/
theorem Moves.induction {now : UInt64} {command : Command}
    {motive : List ObjectId → Chassis → Prop}
    (moves : ∀ {chassis next log ids}, Move now command chassis next ids → motive log chassis →
      motive (log ++ ids) next)
    {first last : Chassis} {log ids : List ObjectId} (path : Moves now command first last ids)
    (start : motive log first) : motive (log ++ ids) last := by
  induction path generalizing log with
  | refl _ =>
      rw [List.append_nil]
      exact start
  | head move _ ih =>
      rw [← List.append_assoc]
      exact ih (moves move start)

/--
What every move of an allowed command preserves, every run of allowed commands
preserves.  The property may speak of the ids handed out before.
-/
theorem Chassis.run_induction {motive : List ObjectId → Chassis → Prop}
    {allowed : Command → Prop}
    (moves : ∀ {now command chassis next log ids}, allowed command →
      Move now command chassis next ids → motive log chassis → motive (log ++ ids) next)
    {history : List (UInt64 × Command)} (within : ∀ entry ∈ history, allowed entry.2)
    {chassis : Chassis} {log : List ObjectId} (start : motive log chassis) :
    motive (log ++ chassis.issuedBy history) (chassis.run history) := by
  unfold run
  induction history generalizing chassis log with
  | nil =>
      unfold issuedBy
      rw [List.append_nil]
      exact start
  | cons entry rest ih =>
      obtain ⟨now, command⟩ := entry
      have permitted : allowed command := within (now, command) List.mem_cons_self
      have first : motive (log ++ chassis.issued command) (chassis.step now command) :=
        Moves.induction (moves permitted) (step_moves command) start
      have others := ih (fun other member => within other (List.mem_cons_of_mem _ member)) first
      rw [List.append_assoc] at others
      exact others

namespace Chassis

/-- Every registered switch has a property, which may speak of its index too. -/
def Everywhere (chassis : Chassis) (motive : UInt8 → Switch → Prop) : Prop :=
  ∀ {index switch}, chassis.switches.get? index = some switch → motive index switch

variable {allowed : Command → Prop} {motive : UInt8 → Switch → Prop}

theorem Everywhere.put {chassis : Chassis} {owner : ObjectId} {next : Switch}
    (others : chassis.Everywhere motive) (own : motive owner.switchIndex next) :
    (chassis.put owner next).Everywhere motive := by
  intro index switch registered
  rw [get?_put] at registered
  split at registered
  · next same =>
      cases registered
      exact same ▸ own
  · exact others registered

/--
A property that new switches have, and that the edits of allowed commands, new
objects and aging passes preserve.
-/
structure IsKept (allowed : Command → Prop) (motive : UInt8 → Switch → Prop) : Prop where
  built : ∀ {boot attrs switch}, checkCreate .switch attrs = .ok () →
    boot.given = Attributes.ofList attrs → Bootstrap.IsBuilt boot switch →
    motive boot.index switch
  edited : ∀ {now command owner switch next}, allowed command →
    Edit now command owner switch next → owner.type? = some .switch →
    motive owner.switchIndex switch → motive owner.switchIndex next
  added : ∀ {index type attrs stored switch equipped id next},
    checkCreate type attrs = .ok () → type.isCounted = true →
    Switch.equip switch type (.ofList attrs) = .ok (stored, equipped) →
    Switch.insert equipped (.object id) stored = .ok next →
    id.type? = some type ∧ id.switchIndex = index →
    motive index switch → motive index next
  aged : ∀ {index switch} (now : UInt64), motive index switch →
    motive index (Switch.age switch now).2

theorem IsKept.move (kept : IsKept allowed motive) {now : UInt64} {command : Command}
    (permitted : allowed command) {chassis next : Chassis} {ids : List ObjectId}
    (move : Move now command chassis next ids)
    (others : chassis.Everywhere motive) : next.Everywhere motive := by
  cases move with
  | edit found edit =>
      obtain ⟨typed, there⟩ := Registry.find_eq_ok_iff.mp found
      exact others.put (kept.edited permitted edit typed (others there))
  | age =>
      intro index switch registered
      unfold age at registered
      rw [OrderedMap.get?_mapValues] at registered
      obtain ⟨before, there, rfl⟩ := Option.map_eq_some_iff.mp registered
      exact kept.aged now (others there)
  | setTestMode _ => exact others
  | removeSwitch _ =>
      intro index switch registered
      rw [OrderedMap.get?_erase] at registered
      split at registered
      · cases registered
      · exact others registered
  | createObject passed counted found equips drawn inserted =>
      obtain ⟨_, there⟩ := Registry.find_eq_ok_iff.mp found
      obtain ⟨isDrawn, typed⟩ := IdAllocator.isDrawn_of_allocate counted drawn
      exact others.put
        (kept.added passed counted equips inserted ⟨typed, isDrawn.index_eq⟩ (others there))
  | wasteId _ _ => exact others
  | createSwitch _ done passed =>
      intro index switch registered
      rw [OrderedMap.get?_insert] at registered
      split at registered
      · next same =>
          cases registered
          exact same ▸ kept.built passed rfl (Bootstrap.run_eq_ok done)
      · exact others registered
  | abandonSwitch _ _ => exact others

/-- A property that allowed commands keep holds everywhere after them if it did before. -/
theorem IsKept.runFrom (kept : IsKept allowed motive) {chassis : Chassis}
    (before : chassis.Everywhere motive) {history : List (UInt64 × Command)}
    (within : ∀ entry ∈ history, allowed entry.2) :
    (chassis.run history).Everywhere motive := by
  refine @run_induction (fun _ chassis => chassis.Everywhere motive) allowed ?_ _ within _ [] before
  intro now command chassis next log ids permitted move others
  exact kept.move permitted move others

/-- A property that allowed commands keep holds of every switch that they ever register. -/
theorem IsKept.run (kept : IsKept allowed motive) (settings : Settings)
    {history : List (UInt64 × Command)} (within : ∀ entry ∈ history, allowed entry.2) :
    ((start settings).run history).Everywhere motive := by
  intro index switch
  refine kept.runFrom ?_ within
  intro index switch registered
  cases registered

end Chassis

end SwitchAbstraction
