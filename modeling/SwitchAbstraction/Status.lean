import SwitchAbstraction.Vocabulary

/-!
# Statuses

Every call of the switch interface reports one of these outcomes.  Outcomes
are numbered from zero downwards; a number outside the list counts as a
general failure.
-/

namespace SwitchAbstraction

/-- The outcome of a call. -/
inductive Status
  | success
  | failure
  | notSupported
  | noMemory
  | insufficientResources
  | invalidParameter
  | itemAlreadyExists
  | itemNotFound
  | bufferOverflow
  | invalidPortNumber
  | invalidPortMember
  | invalidVlanId
  | uninitialized
  | tableFull
  | mandatoryAttributeMissing
  | notImplemented
  | addrNotFound
  | objectInUse
  | invalidObjectType
  | invalidObjectId
  | invalidNifId
  | nifTableFull
  | hwTableFull
  | notExecuted
  | invalidAttribute
  deriving DecidableEq

namespace Status

/-- The number of a status. -/
def code : Status → Int
  | .success => 0
  | .failure => -1
  | .notSupported => -2
  | .noMemory => -3
  | .insufficientResources => -4
  | .invalidParameter => -5
  | .itemAlreadyExists => -6
  | .itemNotFound => -7
  | .bufferOverflow => -8
  | .invalidPortNumber => -9
  | .invalidPortMember => -10
  | .invalidVlanId => -11
  | .uninitialized => -12
  | .tableFull => -13
  | .mandatoryAttributeMissing => -14
  | .notImplemented => -15
  | .addrNotFound => -16
  | .objectInUse => -17
  | .invalidObjectType => -18
  | .invalidObjectId => -19
  | .invalidNifId => -20
  | .nifTableFull => -21
  | .hwTableFull => -22
  | .notExecuted => -23
  | .invalidAttribute => -24

/-- The word for a status. -/
def name : Status → String
  | .success => "SAI_STATUS_SUCCESS"
  | .failure => "SAI_STATUS_FAILURE"
  | .notSupported => "SAI_STATUS_NOT_SUPPORTED"
  | .noMemory => "SAI_STATUS_NO_MEMORY"
  | .insufficientResources => "SAI_STATUS_INSUFFICIENT_RESOURCES"
  | .invalidParameter => "SAI_STATUS_INVALID_PARAMETER"
  | .itemAlreadyExists => "SAI_STATUS_ITEM_ALREADY_EXISTS"
  | .itemNotFound => "SAI_STATUS_ITEM_NOT_FOUND"
  | .bufferOverflow => "SAI_STATUS_BUFFER_OVERFLOW"
  | .invalidPortNumber => "SAI_STATUS_INVALID_PORT_NUMBER"
  | .invalidPortMember => "SAI_STATUS_INVALID_PORT_MEMBER"
  | .invalidVlanId => "SAI_STATUS_INVALID_VLAN_ID"
  | .uninitialized => "SAI_STATUS_UNINITIALIZED"
  | .tableFull => "SAI_STATUS_TABLE_FULL"
  | .mandatoryAttributeMissing => "SAI_STATUS_MANDATORY_ATTRIBUTE_MISSING"
  | .notImplemented => "SAI_STATUS_NOT_IMPLEMENTED"
  | .addrNotFound => "SAI_STATUS_ADDR_NOT_FOUND"
  | .objectInUse => "SAI_STATUS_OBJECT_IN_USE"
  | .invalidObjectType => "SAI_STATUS_INVALID_OBJECT_TYPE"
  | .invalidObjectId => "SAI_STATUS_INVALID_OBJECT_ID"
  | .invalidNifId => "SAI_STATUS_INVALID_NIF_ID"
  | .nifTableFull => "SAI_STATUS_NIF_TABLE_FULL"
  | .hwTableFull => "SAI_STATUS_HW_TABLE_FULL"
  | .notExecuted => "SAI_STATUS_NOT_EXECUTED"
  | .invalidAttribute => "SAI_STATUS_INVALID_ATTRIBUTE"

/-- All statuses. -/
def all : List Status :=
  [.success, .failure, .notSupported, .noMemory, .insufficientResources, .invalidParameter,
    .itemAlreadyExists, .itemNotFound, .bufferOverflow, .invalidPortNumber, .invalidPortMember,
    .invalidVlanId, .uninitialized, .tableFull, .mandatoryAttributeMissing, .notImplemented,
    .addrNotFound, .objectInUse, .invalidObjectType, .invalidObjectId, .invalidNifId,
    .nifTableFull, .hwTableFull, .notExecuted, .invalidAttribute]

instance : Vocabulary Status where
  label := "status"
  words := all
  name := name
  mem_words status := by cases status <;> decide
  nodup_names := by decide

/-- The status with a number; an unassigned number is a general failure. -/
def ofCode (code : Int) : Status :=
  (all.find? fun status => status.code = code).getD .failure

/-- Whether the call failed. -/
def isError (status : Status) : Bool :=
  status ≠ .success

@[simp] theorem ofCode_code (status : Status) : ofCode status.code = status := by
  cases status <;> rfl

end Status

end SwitchAbstraction
