import Mathlib.Data.List.Forall2
import SwitchAbstraction.VirtualSwitch

/-!
# Bulk calls are single calls in turn

A bulk call attempts its items one by one: all of them, or if it stops at
failures, those up to the first one.  What it leaves is what the operation
leaves on these items and no others.  So a bulk call to a backend is the same as
its single calls, each at its own reading of the clock.
-/

namespace SwitchAbstraction

namespace Bulk

variable {σ ι κ α : Type} {mode : BulkMode} {operation : σ → ι → Except Fault α × σ}
  {items : List ι} {state : σ}

/-! ## Items one by one -/

/-- Runs an operation over all items in order, whatever becomes of each. -/
def runAll (operation : σ → ι → Except Fault α × σ) (items : List ι) (state : σ) :
    List (Except Fault α) × σ :=
  let attempts : StateM σ (List (Except Fault α)) :=
    items.mapM fun item state => operation state item
  attempts.run state

/--
The items that are attempted, and those that are left: none if failures are
ignored or there is no failure, and else those behind the first failure.
-/
inductive Attempts (mode : BulkMode) (operation : σ → ι → Except Fault α × σ) (state : σ) :
    List ι → List ι → Prop
  | ignoring (items : List ι) (ignores : mode = .ignoreError) :
      Attempts mode operation state items []
  | succeeding (items : List ι)
      (succeed : ∀ result ∈ (runAll operation items state).1, ∃ value, result = .ok value) :
      Attempts mode operation state items []
  | failing (before : List ι) (item : ι) (left : List ι) (stops : mode = .stopOnError)
      (succeed : ∀ result ∈ (runAll operation before state).1, ∃ value, result = .ok value)
      (fails : ∃ fault, (operation (runAll operation before state).2 item).1 = .error fault) :
      Attempts mode operation state (before ++ [item]) left

/-- The outcome of the items attempted; those that are left are reported as not executed. -/
def IsOneByOne (mode : BulkMode) (operation : σ → ι → Except Fault α × σ) (items : List ι)
    (state : σ) (outcome : List (Except Fault α) × σ) : Prop :=
  ∃ attempted left, items = attempted ++ left ∧ Attempts mode operation state attempted left ∧
    outcome =
      ((runAll operation attempted state).1 ++ left.map fun _ => .error .notExecuted,
        (runAll operation attempted state).2)

/-- A result is reported by a status: its own if it is a failure. -/
inductive Reports : Except Fault α → Status → Prop
  | success (value : α) : Reports (.ok value) .success
  | failure (fault : Fault) : Reports (.error fault) fault.status

theorem runAll_cons (item : ι) :
    runAll operation (item :: items) state =
      ((operation state item).1 :: (runAll operation items (operation state item).2).1,
        (runAll operation items (operation state item).2).2) := by
  unfold runAll
  rw [List.mapM_cons]
  rfl

theorem Attempts.cons_ok {item : ι} {value : α} {next : σ} {attempted left : List ι}
    (taken : operation state item = (.ok value, next))
    (attempts : Attempts mode operation next attempted left) :
    Attempts mode operation state (item :: attempted) left := by
  have succeeds {more : List ι}
      (others : ∀ result ∈ (runAll operation more next).1, ∃ value, result = .ok value) :
      ∀ result ∈ (runAll operation (item :: more) state).1, ∃ value, result = .ok value := by
    rw [runAll_cons, taken]
    exact List.forall_mem_cons.mpr ⟨⟨value, rfl⟩, others⟩
  cases attempts with
  | ignoring _ ignores => exact .ignoring _ ignores
  | succeeding _ succeed => exact .succeeding _ (succeeds succeed)
  | failing before last _ stops succeed fails =>
      refine .failing (item :: before) last left stops (succeeds succeed) ?_
      rw [runAll_cons, taken]
      exact fails

/-- A bulk call does to the state what the operation does on the items that it attempts. -/
theorem run_isOneByOne (mode : BulkMode) (operation : σ → ι → Except Fault α × σ)
    (items : List ι) (state : σ) :
    IsOneByOne mode operation items state (run mode operation items state) := by
  induction items generalizing state with
  | nil => exact ⟨[], [], rfl, .succeeding [] (List.forall_mem_nil _), rfl⟩
  | cons item rest ih =>
      unfold run
      split
      · next value next taken =>
          obtain ⟨attempted, left, rfl, attempts, same⟩ := ih next
          refine ⟨item :: attempted, left, rfl, attempts.cons_ok taken, ?_⟩
          rw [same, runAll_cons, taken]
          rfl
      · next fault next taken =>
          cases mode with
          | stopOnError =>
              have fails : ∃ fault, (operation state item).1 = .error fault :=
                ⟨fault, congrArg Prod.fst taken⟩
              refine ⟨[item], rest, rfl,
                .failing [] item rest rfl (List.forall_mem_nil _) fails, ?_⟩
              rw [runAll_cons, taken]
              rfl
          | ignoreError =>
              obtain ⟨attempted, left, rfl, attempts, same⟩ := ih next
              -- Nothing is left if failures are ignored.
              cases attempts with
              | failing _ _ _ stops => cases stops
              | ignoring | succeeding =>
                  refine ⟨item :: attempted, [], rfl, .ignoring _ rfl, ?_⟩
                  rw [same, runAll_cons, taken]
                  rfl

theorem run_map (rewrite : κ → ι) (items : List κ) (state : σ) :
    run mode operation (items.map rewrite) state =
      run mode (fun state item => operation state (rewrite item)) items state := by
  induction items generalizing state with
  | nil => rfl
  | cons item rest ih =>
      simp only [List.map_cons, run, ih, List.map_map]
      rfl

/-! ## Reports of the results -/

theorem forall₂_reports_statuses (results : List (Except Fault α)) :
    List.Forall₂ Reports results (statuses results) := by
  induction results with
  | nil => exact .nil
  | cons result rest ih =>
      cases result with
      | ok value => exact .cons (.success value) ih
      | error fault => exact .cons (.failure fault) ih

theorem isFailure_eq_false_iff {result : Except Fault α} :
    isFailure result = false ↔ ∃ value, result = .ok value := by
  cases result with
  | ok value => exact ⟨fun _ => ⟨value, rfl⟩, fun _ => rfl⟩
  | error fault => exact ⟨nofun, nofun⟩

theorem overall_eq_ok_iff {results : List (Except Fault α)} :
    overall results = .ok () ↔ ∀ result ∈ results, ∃ value, result = .ok value := by
  have none : results.countP isFailure = 0 ↔
      ∀ result ∈ results, ∃ value, result = .ok value := by
    simp only [List.countP_eq_zero, Bool.not_eq_true, isFailure_eq_false_iff]
  rw [← none]
  unfold overall
  dsimp only
  split
  · next clean => exact ⟨fun _ => clean, fun _ => rfl⟩
  · next failed => exact ⟨nofun, fun clean => absurd clean failed⟩

end Bulk

namespace Call

/-- Entries are created like all else that calls are made for. -/
theorem bulkCreateEntries_eq_bulk {σ : Type} (perform : σ → Call → Answer × σ) (mode : BulkMode)
    (entries : List (ObjectKey × List Attribute)) (state : σ) :
    bulkCreateEntries perform mode (entries.map Prod.fst) (entries.map Prod.snd) state =
      bulk perform mode (entries.map fun entry => .createEntry entry.1 entry.2) state := by
  have asMany : (entries.map Prod.fst).length = (entries.map Prod.snd).length := by
    rw [List.length_map, List.length_map]
  unfold bulkCreateEntries Bulk.runPairs bulk
  rw [if_pos asMany, Bulk.run_map, List.zip_map', List.map_id']

end Call

/-! ## Bulk calls to a backend -/

namespace VirtualSwitch

open Bulk

/-- Makes a call at what a clock shows now, and counts its readings. -/
def performNext (clock : Nat → UInt64) (state : VirtualSwitch × Nat) (call : Call) :
    Answer × VirtualSwitch × Nat :=
  let (answer, next) := state.1.perform (clock state.2) call
  (answer, next, state.2 + 1)

/-- Single calls, one at each reading of a clock. -/
def singleCalls (clock : Nat → UInt64) (first : Nat) (calls : List Call) : List Action :=
  (calls.zipIdx first).map fun (call, reading) => .call (clock reading) call

/-- The results of those single calls among what comes of some actions. -/
def results (responses : List (Option Response)) : List (Except Fault Reply) :=
  responses.filterMap fun
    | some (.answered answer) => some answer.result
    | _ => none

/--
What a bulk call gives and leaves: what its single calls give that were
attempted, and the backend as they leave it.
-/
def IsInTurn (clock : Nat → UInt64) (mode : BulkMode) (backend : VirtualSwitch)
    (calls : List Call) (given : List (Except Fault Reply)) (after : VirtualSwitch) : Prop :=
  ∃ attempted left, calls = attempted ++ left ∧
    Attempts mode (Call.resultOf (performNext clock)) (backend, 0) attempted left ∧
    given = results (backend.responses (singleCalls clock 0 attempted)) ++
      left.map (fun _ => .error .notExecuted) ∧
    after = backend.actAll (singleCalls clock 0 attempted)

theorem runAll_performNext (clock : Nat → UInt64) (calls : List Call) (backend : VirtualSwitch)
    (first : Nat) :
    runAll (Call.resultOf (performNext clock)) calls (backend, first) =
      (results (backend.responses (singleCalls clock first calls)),
        backend.actAll (singleCalls clock first calls), first + calls.length) := by
  induction calls generalizing backend first with
  | nil => rfl
  | cons call rest ih =>
      have own : Call.resultOf (performNext clock) (backend, first) call =
          ((backend.perform (clock first) call).1.result,
            (backend.perform (clock first) call).2, first + 1) := rfl
      rw [runAll_cons, own]
      dsimp only
      rw [ih, List.length_cons, Nat.add_assoc, Nat.add_comm 1]
      rfl

theorem isInTurn_bulk (clock : Nat → UInt64) (mode : BulkMode) (backend : VirtualSwitch)
    (calls : List Call) :
    backend.IsInTurn clock mode calls
      (Call.bulk (performNext clock) mode calls (backend, 0)).1
      (Call.bulk (performNext clock) mode calls (backend, 0)).2.1 := by
  obtain ⟨attempted, left, same, attempts, outcome⟩ :=
    run_isOneByOne mode (Call.resultOf (performNext clock)) calls (backend, 0)
  unfold Call.bulk
  rw [outcome, runAll_performNext]
  exact ⟨attempted, left, same, attempts, rfl, rfl⟩

/--
A bulk call gives one result an item and does what the operation does on the
items one by one: on all of them or, if it stops at failures, up to the first
one, the others being reported as not executed.  The statuses are those of the
results in order, and the call as a whole succeeds if all items do.  So a bulk
call to a backend leaves it as the single calls do that it attempts.
-/
theorem bulk_calls_are_single_calls_in_turn :
    (∀ {σ ι α : Type} (mode : BulkMode) (operation : σ → ι → Except Fault α × σ)
      (items : List ι) (state : σ),
      (run mode operation items state).1.length = items.length ∧
      IsOneByOne mode operation items state (run mode operation items state)) ∧
    (∀ {α : Type} (results : List (Except Fault α)),
      List.Forall₂ Reports results (statuses results) ∧
      (overall results = .ok () ↔ ∀ result ∈ results, ∃ value, result = .ok value)) ∧
    ∀ (clock : Nat → UInt64) (mode : BulkMode) (backend : VirtualSwitch),
      (∀ type switchId lists,
        let bulk := Call.bulkCreate (performNext clock) mode type switchId lists (backend, 0)
        backend.IsInTurn clock mode (lists.map (.create type switchId)) bulk.1 bulk.2.1) ∧
      (∀ type ids,
        let bulk := Call.bulkRemove (performNext clock) mode type ids (backend, 0)
        ∃ given, backend.IsInTurn clock mode (ids.map (.remove type)) given bulk.2.1 ∧
          List.Forall₂ Reports given bulk.1) ∧
      (∀ entries : List (ObjectKey × List Attribute),
        let bulk := Call.bulkCreateEntries (performNext clock) mode (entries.map Prod.fst)
          (entries.map Prod.snd) (backend, 0)
        backend.IsInTurn clock mode (entries.map fun entry => .createEntry entry.1 entry.2)
          bulk.1 bulk.2.1) ∧
      ∀ keys,
        let bulk := Call.bulkRemoveEntries (performNext clock) mode keys (backend, 0)
        ∃ given, backend.IsInTurn clock mode (keys.map .removeEntry) given bulk.2.1 ∧
          List.Forall₂ Reports given bulk.1 := by
  refine ⟨?_, ?_, ?_⟩
  · intro σ ι α mode operation items state
    exact ⟨length_run mode operation items state, run_isOneByOne mode operation items state⟩
  · intro α results
    exact ⟨forall₂_reports_statuses results, overall_eq_ok_iff⟩
  · intro clock mode backend
    refine ⟨?_, ?_, ?_, ?_⟩
    · intro type switchId lists
      exact isInTurn_bulk clock mode backend _
    · intro type ids
      exact ⟨_, isInTurn_bulk clock mode backend _, forall₂_reports_statuses _⟩
    · intro entries
      rw [Call.bulkCreateEntries_eq_bulk]
      exact isInTurn_bulk clock mode backend _
    · intro keys
      exact ⟨_, isInTurn_bulk clock mode backend _, forall₂_reports_statuses _⟩

end VirtualSwitch

end SwitchAbstraction
