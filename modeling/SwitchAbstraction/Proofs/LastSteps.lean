import Mathlib.Data.List.Induction
import SwitchAbstraction.Proofs.Ledger

/-!
# The last step at which something happened

What a state says can often be read off one step of the history that led to it:
the last one at which something happened.  If each step either makes it happen
and sets a value, or lets the value be, then the value at the end is the one
that was set at the last such step.
-/

namespace SwitchAbstraction.Chassis

/-- A step at which something happened, such that it happened at no step after it. -/
structure LastStep (first : Chassis) (happens : Chassis → UInt64 → Command → Prop)
    (history past : List (UInt64 × Command)) (now : UInt64) (command : Command)
    (later : List (UInt64 × Command)) : Prop where
  split : history = past ++ (now, command) :: later
  happened : happens (first.run past) now command
  quiet : ∀ {between soon other rest}, later = between ++ (soon, other) :: rest →
    ¬ happens (first.run (past ++ (now, command) :: between)) soon other

variable {first : Chassis} {happens : Chassis → UInt64 → Command → Prop}
  {history past later : List (UInt64 × Command)} {now soon : UInt64} {command other : Command}

theorem run_concat :
    first.run (history ++ [(now, command)]) = (first.run history).step now command :=
  run_append first history _

theorem lastStep_concat (happened : happens (first.run history) now command) :
    LastStep first happens (history ++ [(now, command)]) history now command [] where
  split := rfl
  happened := happened
  quiet impossible := by
    have members := congrArg List.length impossible
    simp at members

/-- The last step is still the last one after a step at which nothing happens. -/
theorem LastStep.concat (last : LastStep first happens history past now command later)
    (nothing : ¬ happens (first.run history) soon other) :
    LastStep first happens (history ++ [(soon, other)]) past now command
      (later ++ [(soon, other)]) where
  split := by rw [last.split, List.append_assoc, List.cons_append]
  happened := last.happened
  quiet {between _ _ rest} same := by
    rcases List.eq_nil_or_concat rest with rfl | ⟨front, final, rfl⟩
    · obtain ⟨rfl, own⟩ := List.append_inj' same rfl
      cases own
      rw [← last.split]
      exact nothing
    · rw [List.concat_eq_append, ← List.cons_append, ← List.append_assoc] at same
      obtain ⟨split, _⟩ := List.append_inj' same rfl
      exact last.quiet split

/--
If each step of a history makes something happen and sets a value, or lets the
value be as it was, the value at the end was set at the last step at which it
happened.
-/
theorem exists_lastStep {β : Type} {shows : Chassis → β → Prop}
    {sets : Chassis → UInt64 → Command → β → Prop} (nothing : ∀ value, ¬ shows first value)
    (steps : ∀ {past now command later value}, history = past ++ (now, command) :: later →
      shows ((first.run past).step now command) value →
      (happens (first.run past) now command ∧ sets (first.run past) now command value) ∨
        (¬ happens (first.run past) now command ∧ shows (first.run past) value))
    {value : β} (shown : shows (first.run history) value) :
    ∃ past now command later, LastStep first happens history past now command later ∧
      sets (first.run past) now command value := by
  induction history using List.reverseRecOn with
  | nil => exact absurd shown (nothing value)
  | append_singleton history entry ih =>
      obtain ⟨soon, other⟩ := entry
      rw [run_concat] at shown
      rcases steps rfl shown with ⟨happened, set⟩ | ⟨quiet, before⟩
      · exact ⟨history, soon, other, [], lastStep_concat happened, set⟩
      · have earlier {past now command later value}
            (split : history = past ++ (now, command) :: later)
            (there : shows ((first.run past).step now command) value) := by
          have longer : history ++ [(soon, other)] =
              past ++ (now, command) :: (later ++ [(soon, other)]) := by
            rw [split, List.append_assoc, List.cons_append]
          exact steps longer there
        obtain ⟨past, now, command, later, last, set⟩ := ih earlier before
        exact ⟨past, now, command, later ++ [(soon, other)], last.concat quiet, set⟩

end SwitchAbstraction.Chassis
