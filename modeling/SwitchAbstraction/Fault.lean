import SwitchAbstraction.Fault.Causes
import SwitchAbstraction.Status

/-!
# Faults

Why a call was refused.  A fault keeps its cause; its kind, its status and its
message are read off the cause.
-/

namespace SwitchAbstraction

/-- Why a call was refused. -/
inductive Fault
  | invalid (cause : InvalidInput)
  | invalidId (cause : IdDefect)
  | notFound (item : Item)
  | alreadyExists (key : ObjectKey)
  | overflow (needs : List (AttrId × UInt32))
  | notImplemented (feature : Feature)
  | uninitialized
  | notExecuted
  | failed (cause : Failure)
  /-- A status that a peer gave, with a note on what the call was about. -/
  | reported (status : Status) (note : String)
  deriving DecidableEq

/-- The kinds of faults that a caller tells apart. -/
inductive FaultKind
  | invalidParameter
  | notFound
  | alreadyExists
  | bufferOverflow
  | invalidObjectId
  | notImplemented
  | uninitialized
  | notExecuted
  | failure
  | other (status : Status)
  deriving DecidableEq

namespace FaultKind

/-- The kind that a reported status belongs to.  A reported success is a failure. -/
def ofStatus : Status → FaultKind
  | .success => .failure
  | .failure => .failure
  | .invalidParameter => .invalidParameter
  | .itemNotFound => .notFound
  | .itemAlreadyExists => .alreadyExists
  | .bufferOverflow => .bufferOverflow
  | .invalidObjectId => .invalidObjectId
  | .notImplemented => .notImplemented
  | .uninitialized => .uninitialized
  | .notExecuted => .notExecuted
  | status => .other status

/-- The status that a kind of fault is reported as. -/
def toStatus : FaultKind → Status
  | .invalidParameter => .invalidParameter
  | .notFound => .itemNotFound
  | .alreadyExists => .itemAlreadyExists
  | .bufferOverflow => .bufferOverflow
  | .invalidObjectId => .invalidObjectId
  | .notImplemented => .notImplemented
  | .uninitialized => .uninitialized
  | .notExecuted => .notExecuted
  | .failure => .failure
  | .other status => status

/-- The message of a kind of fault about the given detail. -/
def message (detail : String) : FaultKind → String
  | .invalidParameter => "invalid parameter: " ++ detail
  | .notFound => detail ++ " not found"
  | .alreadyExists => detail ++ " already exists"
  | .bufferOverflow => "buffer overflow: " ++ detail
  | .invalidObjectId => "invalid object id: " ++ detail
  | .notImplemented => "not implemented: " ++ detail
  | .uninitialized => "backend not initialized"
  | .notExecuted => "not executed"
  | .failure => "failure: " ++ detail
  | .other status => "call returned " ++ status.name

end FaultKind

namespace Fault

/-- The kind of a fault. -/
def kind : Fault → FaultKind
  | .invalid _ => .invalidParameter
  | .invalidId _ => .invalidObjectId
  | .notFound _ => .notFound
  | .alreadyExists _ => .alreadyExists
  | .overflow _ => .bufferOverflow
  | .notImplemented _ => .notImplemented
  | .uninitialized => .uninitialized
  | .notExecuted => .notExecuted
  | .failed _ => .failure
  | .reported status _ => .ofStatus status

/-- The status that a fault is reported as. -/
def status (fault : Fault) : Status :=
  fault.kind.toStatus

/-- What a fault is about. -/
def detail : Fault → String
  | .invalid cause => cause.message
  | .invalidId cause => cause.message
  | .notFound item => item.text
  | .alreadyExists key => key.text
  | .overflow needs =>
      ", ".intercalate
        (needs.map fun need => need.1.name ++ " needs " ++ Text.decimal need.2.toNat)
  | .notImplemented feature => feature.message
  | .uninitialized => ""
  | .notExecuted => ""
  | .failed cause => cause.message
  | .reported .success note => "success status used as error (" ++ note ++ ")"
  | .reported _ note => note

/-- The message of a fault. -/
def message (fault : Fault) : String :=
  fault.kind.message fault.detail

/-- The fault of a profile defect; a file that cannot be read is a failure. -/
def ofSettings : SettingsDefect → Fault
  | .unreadableFile path defect => .failed (.settings (.unreadableFile path defect))
  | defect => .invalid (.settings defect)

theorem toStatus_ofStatus {status : Status} (bad : status ≠ .success) :
    (FaultKind.ofStatus status).toStatus = status := by
  cases status <;> simp_all [FaultKind.ofStatus, FaultKind.toStatus]

/-- A reported status other than success stays what it was. -/
theorem status_reported {status : Status} (bad : status ≠ .success) (note : String) :
    (Fault.reported status note).status = status :=
  toStatus_ofStatus bad

/-- A fault is never reported as a success. -/
theorem status_ne_success (fault : Fault) : fault.status ≠ .success := by
  cases fault with
  | reported status note =>
      by_cases good : status = .success
      · subst good
        simp [Fault.status, kind, FaultKind.ofStatus, FaultKind.toStatus]
      · rw [status_reported good]
        exact good
  | _ => simp [Fault.status, kind, FaultKind.toStatus]

end Fault

namespace Status

/-- The status of a result. -/
def ofResult {α : Type} : Except Fault α → Status
  | .ok _ => .success
  | .error fault => fault.status

/-- Success as a result, or the fault that a status stands for. -/
def toResult : Status → Except Fault Unit
  | .success => .ok ()
  | status => .error (.reported status "unknown")

end Status

end SwitchAbstraction
