import SwitchAbstraction.Fault

/-!
# Calls to a backend

The calls that every backend takes, one by one and in bulk.
-/

namespace SwitchAbstraction

/-!
## Bulk calls

A bulk call runs one operation over many items, passing the state on from item
to item.  It either stops at the first failure, reporting every later item as
not executed, or attempts every item.
-/

/-- How a bulk call reacts to a failing item. -/
inductive BulkMode
  | stopOnError
  | ignoreError
  deriving DecidableEq, Inhabited

namespace Bulk

variable {σ ι α : Type}

/-- Runs an operation over items, one result an item. -/
def run (mode : BulkMode) (operation : σ → ι → Except Fault α × σ) :
    List ι → σ → List (Except Fault α) × σ
  | [], state => ([], state)
  | item :: rest, state =>
      match operation state item with
      | (.ok value, next) =>
          let (results, final) := run mode operation rest next
          (.ok value :: results, final)
      | (.error fault, next) =>
          match mode with
          | .stopOnError => (.error fault :: rest.map fun _ => .error .notExecuted, next)
          | .ignoreError =>
              let (results, final) := run mode operation rest next
              (.error fault :: results, final)

/-- Whether a result is a failure. -/
def isFailure : Except Fault α → Bool
  | .ok _ => false
  | .error _ => true

/-- Success if every item succeeded. -/
def overall (results : List (Except Fault α)) : Except Fault Unit :=
  let failed := results.countP isFailure
  if failed = 0 then .ok ()
  else .error (.failed (.someFailed failed results.length))

/-- The status of each result. -/
def statuses (results : List (Except Fault α)) : List Status :=
  results.map Status.ofResult

/-- Runs an operation over keys and attribute lists, which have to be as many. -/
def runPairs {κ β : Type} (mode : BulkMode) (operation : σ → κ × β → Except Fault α × σ)
    (keys : List κ) (lists : List β) (state : σ) : List (Except Fault α) × σ :=
  if keys.length = lists.length then run mode operation (keys.zip lists) state
  else
    (keys.map fun _ => .error (.invalid (.unequalLists keys.length lists.length)), state)

/-- There is one result an item. -/
@[simp] theorem length_run (mode : BulkMode) (operation : σ → ι → Except Fault α × σ)
    (items : List ι) (state : σ) :
    (run mode operation items state).1.length = items.length := by
  induction items generalizing state with
  | nil => rfl
  | cons item rest ih =>
      unfold run
      split
      · simp [ih]
      · split
        · simp
        · simp [ih]

end Bulk

/-!
## Calls

The calls that every backend takes, and how they are answered.  A read hands
in slots and gets them back filled, as far as that went, also when it fails.
Bulk calls are runs of single ones, whatever the backend.
-/

/-- A call to a backend. -/
inductive Call
  | create (type : ObjectType) (switchId : ObjectId) (attrs : List Attribute)
  | remove (type : ObjectType) (id : ObjectId)
  | set (type : ObjectType) (id : ObjectId) (attr : Attribute)
  | get (type : ObjectType) (id : ObjectId) (slots : List Attribute)
  | createEntry (key : ObjectKey) (attrs : List Attribute)
  | removeEntry (key : ObjectKey)
  | setEntry (key : ObjectKey) (attr : Attribute)
  | getEntry (key : ObjectKey) (slots : List Attribute)
  | readStats (type : ObjectType) (id : ObjectId) (stats : List Stat) (mode : StatsMode)
  | clearStats (type : ObjectType) (id : ObjectId) (stats : List Stat)
  | flush (switchId : ObjectId) (attrs : List Attribute)
  deriving DecidableEq

/-- What a successful call gives. -/
inductive Reply
  | done
  | created (id : ObjectId)
  | counted (counts : List UInt64)
  deriving DecidableEq

/-- How a call went, with the slots of a read as it left them. -/
structure Answer where
  result : Except Fault Reply
  slots : List Attribute

namespace Call

/-- The slots that a call hands in. -/
def slots : Call → List Attribute
  | .get _ _ slots => slots
  | .getEntry _ slots => slots
  | _ => []

/-- The answer to a call that was refused before anything was read. -/
def refused (call : Call) (fault : Fault) : Answer :=
  ⟨.error fault, call.slots⟩

variable {σ : Type} (perform : σ → Call → Answer × σ)

/-- The result of a call without its slots. -/
def resultOf (state : σ) (call : Call) : Except Fault Reply × σ :=
  ((perform state call).1.result, (perform state call).2)

/-- Makes calls one after another. -/
def bulk (mode : BulkMode) (calls : List Call) (state : σ) :
    List (Except Fault Reply) × σ :=
  Bulk.run mode (resultOf perform) calls state

/-- Creates an object for each list of attributes. -/
def bulkCreate (mode : BulkMode) (type : ObjectType) (switchId : ObjectId)
    (lists : List (List Attribute)) (state : σ) : List (Except Fault Reply) × σ :=
  bulk perform mode (lists.map (.create type switchId)) state

/-- Removes the object of each id. -/
def bulkRemove (mode : BulkMode) (type : ObjectType) (ids : List ObjectId) (state : σ) :
    List Status × σ :=
  let (results, final) := bulk perform mode (ids.map (.remove type)) state
  (Bulk.statuses results, final)

/-- Creates the entry of each key with the attributes that go with it. -/
def bulkCreateEntries (mode : BulkMode) (keys : List ObjectKey)
    (lists : List (List Attribute)) (state : σ) : List (Except Fault Reply) × σ :=
  Bulk.runPairs mode (fun state pair => resultOf perform state (.createEntry pair.1 pair.2))
    keys lists state

/-- Removes the entry of each key. -/
def bulkRemoveEntries (mode : BulkMode) (keys : List ObjectKey) (state : σ) :
    List Status × σ :=
  let (results, final) := bulk perform mode (keys.map .removeEntry) state
  (Bulk.statuses results, final)

end Call

end SwitchAbstraction
