import SwitchAbstraction.Checks
import SwitchAbstraction.Fault

/-!
# Handing out ids and indexes

Ids of objects and indexes of switches are handed out once, those of debug
counters again and again.
-/

namespace SwitchAbstraction

/-!
## Ids and switch indexes

Counters of object ids and switch indexes only go up: removing an object or a
switch gives nothing back, so no id and no index is handed out twice.
-/

/-- The source of object ids, kept as the last counter handed out. -/
structure IdAllocator where
  last : Nat
  deriving DecidableEq, Inhabited

namespace IdAllocator

/-- An allocator that starts at counter one. -/
def fresh : IdAllocator :=
  ⟨0⟩

/-- A new id of a type on a switch.  A switch has the one id of its index. -/
def allocate (ids : IdAllocator) (index : UInt8) (type : ObjectType) :
    Except Fault (ObjectId × IdAllocator) :=
  if type = .switch then .ok (.ofSwitchIndex index, ids)
  else
    match ObjectId.encode index type (ids.last + 1) with
    | .ok id => .ok (id, ⟨ids.last + 1⟩)
    | .error fault => .error fault

end IdAllocator

/-- The source of switch indexes, kept as the number of those handed out. -/
structure SwitchIndexPool where
  taken : Nat
  deriving DecidableEq, Inhabited

namespace SwitchIndexPool

/-- The number of switch indexes that an id can carry. -/
def limit : Nat :=
  256

/-- A pool with every index left. -/
def fresh : SwitchIndexPool :=
  ⟨0⟩

/-- The lowest index never handed out. -/
def allocate (pool : SwitchIndexPool) : Except Fault (UInt8 × SwitchIndexPool) :=
  if limit ≤ pool.taken then .error (.failed (.switchIndexesExhausted limit))
  else .ok (UInt8.ofNat pool.taken, ⟨pool.taken + 1⟩)

end SwitchIndexPool

/-!
## Debug counter indexes

A switch has a fixed number of debug counters in hardware.  A new counter
takes the lowest index that is free, and gives it back when it is removed.
-/

/-- The indexes in use. -/
structure DebugCounterPool where
  used : OrderedMap UInt32 Unit
  deriving DecidableEq

namespace DebugCounterPool

/-- The number of indexes. -/
def limit : Nat :=
  32

/-- A pool with every index free. -/
def fresh : DebugCounterPool :=
  ⟨∅⟩

/-- Whether an index is free. -/
def isFree (pool : DebugCounterPool) (index : UInt32) : Bool :=
  !pool.used.contains index

/-- The lowest free index. -/
def lowestFree? (pool : DebugCounterPool) : Option UInt32 :=
  ((List.range limit).map UInt32.ofNat).find? pool.isFree

/-- Takes the lowest free index. -/
def allocate (pool : DebugCounterPool) : Except Fault (UInt32 × DebugCounterPool) :=
  match pool.lowestFree? with
  | some index => .ok (index, ⟨pool.used.insert index ()⟩)
  | none => .error (.failed (.debugCountersExhausted limit))

/-- Gives an index back. -/
def release (pool : DebugCounterPool) (index : UInt32) : DebugCounterPool :=
  ⟨pool.used.erase index⟩

/-- The number of indexes in use. -/
def inUse (pool : DebugCounterPool) : Nat :=
  pool.used.size

end DebugCounterPool

end SwitchAbstraction
