import SwitchAbstraction.Attribute
import SwitchAbstraction.Clock
import SwitchAbstraction.Stat

/-!
# Causes of refusal

What exactly was wrong with a call, as data.  The wording of each cause stands
beside it and nowhere else.
-/

namespace SwitchAbstraction

/-- The texts that are read into values of a fixed form. -/
inductive TextForm
  | objectId
  | macAddress
  | ipNetwork
  | objectKey
  deriving DecidableEq

/-- The words for a form. -/
def TextForm.name : TextForm → String
  | .objectId => "object id"
  | .macAddress => "MAC address"
  | .ipNetwork => "IP prefix"
  | .objectKey => "object key"

/-- Why a file gives no text. -/
inductive FileDefect
  | missing
  | notText
  deriving DecidableEq

/-- The words for a file defect. -/
def FileDefect.message : FileDefect → String
  | .missing => "No such file or directory (os error 2)"
  | .notText => "stream did not contain valid UTF-8"

/-- What is wrong with the profile of a virtual switch. -/
inductive SettingsDefect
  | missingKey (key : String)
  | unknownSwitchType (text : String)
  | invalidBootType (text : String)
  | unreadableFile (path : String) (defect : FileDefect)
  deriving DecidableEq

/-- The words for a profile defect. -/
def SettingsDefect.message : SettingsDefect → String
  | .missingKey key => "Missing profile key: " ++ key
  | .unknownSwitchType text => "Unknown switch type: " ++ text
  | .invalidBootType text => "Invalid boot type: " ++ text
  | .unreadableFile path defect => "Failed to read " ++ path ++ ": " ++ defect.message

/-- Why a shared store refused an operation. -/
inductive StoreDefect
  | connection (text : String)
  | command (text : String)
  deriving DecidableEq

/-- The words for a store defect. -/
def StoreDefect.message : StoreDefect → String
  | .connection text => "Store connection error: " ++ text
  | .command text => "Store command error: " ++ text

/-- The accessors through which a backend reads its profile. -/
inductive Accessor
  | value
  | nextValue
  deriving DecidableEq

/-- The words for an accessor. -/
def Accessor.name : Accessor → String
  | .value => "profile_get_value"
  | .nextValue => "profile_get_next_value"

/-- Input that is malformed or contradicts itself. -/
inductive InvalidInput
  | malformed (form : TextForm) (text : String)
  | unknownWord (label text : String)
  | networkTooLong (length : Nat) (address : Ip)
  | notAnIdType (type : ObjectType)
  | nullIdAs (type : ObjectType)
  | nullId
  | undecodableKey (type : ObjectType)
  | undecodableValue (name : String)
  | undecodablePayload
  | undecodableNotification (op : String)
  | notificationWithoutData (op : String)
  | messageTooShort
  | danglingField (key : String)
  | slotMismatch (slot stored : ValueKind)
  | kindMismatch (id : AttrId) (actual : ValueKind)
  | foreignAttribute (id : AttrId) (type : ObjectType)
  | readOnlyAttribute (id : AttrId)
  | duplicateAttribute (id : AttrId)
  | idAddressed (type : ObjectType)
  | notCreatedById (type : ObjectType)
  | entryTypeMissing
  | badEntryType (value : AttrValue)
  | badFlushType (value : AttrValue)
  | notFlushAttribute (id : AttrId)
  | accessorMissing (accessor : Accessor)
  | malformedNumber (name text : String) (defect : Text.NumeralDefect)
  | foreignStat (stat : Stat) (type : ObjectType)
  | badTestMode (text : String)
  | unequalLists (keys lists : Nat)
  | settings (defect : SettingsDefect)
  deriving DecidableEq

/-- What stands for the wording of the JSON reader in a message. -/
def jsonWording : String :=
  "<json>"

/-- The words for invalid input. -/
def InvalidInput.message : InvalidInput → String
  | .malformed form text => "invalid " ++ form.name ++ " " ++ text
  | .unknownWord label text => "unknown " ++ label ++ " " ++ text
  | .networkTooLong length address =>
      "prefix length " ++ Text.decimal length ++ " exceeds " ++ Text.decimal address.width ++
        " for " ++ address.text
  | .notAnIdType type => type.name ++ " is not an object id type"
  | .nullIdAs type => "null object id used as " ++ type.name
  | .nullId => "null object id"
  | .undecodableKey type => "invalid " ++ type.name ++ " key " ++ jsonWording
  | .undecodableValue name => name ++ ": " ++ jsonWording
  | .undecodablePayload => "undecodable channel payload: " ++ jsonWording
  | .undecodableNotification op => "undecodable " ++ op ++ " notification: " ++ jsonWording
  | .notificationWithoutData op => op ++ " notification without data"
  | .messageTooShort => "channel message must have at least key and operation"
  | .danglingField key => "channel message " ++ key ++ " has a dangling field"
  | .slotMismatch slot stored =>
      slot.name ++ " buffer offered for a " ++ stored.name ++ " value"
  | .kindMismatch id actual =>
      id.name ++ " expects a " ++ id.kind.name ++ " value, got " ++ actual.name
  | .foreignAttribute id type => id.name ++ " is not an attribute of " ++ type.name
  | .readOnlyAttribute id => id.name ++ " is read-only"
  | .duplicateAttribute id => "duplicate attribute " ++ id.name
  | .idAddressed type => type.name ++ " is addressed by object id"
  | .notCreatedById type => type.name ++ " is not created by object id"
  | .entryTypeMissing => "FDB entry needs " ++ AttrId.fdbEntryType.name
  | .badEntryType value => "invalid FDB entry type " ++ value.describe
  | .badFlushType value => "invalid flush entry type " ++ value.describe
  | .notFlushAttribute id => id.name ++ " is not an FDB flush attribute"
  | .accessorMissing accessor => "service method table lacks " ++ accessor.name
  | .malformedNumber name text defect => name ++ "=" ++ text ++ ": " ++ defect.message
  | .foreignStat stat type => stat.name ++ " is not a stat of " ++ type.name
  | .badTestMode text => "enable_unittests expects true or false, got " ++ text
  | .unequalLists keys lists =>
      Text.decimal keys ++ " keys but " ++ Text.decimal lists ++ " attribute lists"
  | .settings defect => defect.message

/-- An id that does not name what it was used for. -/
inductive IdDefect
  | wrongType (id : ObjectId) (actual expected : ObjectType)
  | unknownType (id : ObjectId)
  | namesNoObject (id : ObjectId)
  deriving DecidableEq

/-- The words for an id defect. -/
def IdDefect.message : IdDefect → String
  | .wrongType id actual expected =>
      id.text ++ " is " ++ actual.name ++ ", expected " ++ expected.name
  | .unknownType id => id.text ++ " carries an unknown object type"
  | .namesNoObject id => id.text ++ " does not name an object"

/-- What was looked for and not found. -/
inductive Item
  | ofId (id : ObjectId)
  | ofKey (key : ObjectKey)
  deriving DecidableEq

/-- The text of an item. -/
def Item.text : Item → String
  | .ofId id => id.text
  | .ofKey key => key.text

/-- What is deliberately not modelled, or was never set. -/
inductive Feature
  | objectType (type : ObjectType)
  | keysOf (type : ObjectType)
  | notification (op : String)
  | attribute (id : AttrId) (key : ObjectKey)
  deriving DecidableEq

/-- The words for a feature. -/
def Feature.message : Feature → String
  | .objectType type => type.name
  | .keysOf type => "keys of " ++ type.name
  | .notification op => "notification " ++ op
  | .attribute id key => id.name ++ " on " ++ key.text

/-- The two kinds of backend. -/
inductive Backend
  | virtualSwitch
  | remote
  deriving DecidableEq

/-- The words for a backend. -/
def Backend.name : Backend → String
  | .virtualSwitch => "virtual switch"
  | .remote => "redis backend"

/-- Failures that are not the fault of one argument. -/
inductive Failure
  | countersExhausted
  | switchIndexesExhausted (limit : Nat)
  | debugCountersExhausted (limit : Nat)
  | testModeRequired (op : String)
  | alreadyInitialized (backend : Backend)
  | notSpawned (worker reason : String)
  | timedOut (op key : String) (milliseconds : Nat)
  | responsesClosed
  | store (defect : StoreDefect)
  | unexpectedReply (expected actual : String)
  | missingCount (stat : Stat)
  | malformedCount (stat : Stat) (text : String) (defect : Text.NumeralDefect)
  | someFailed (failed total : Nat)
  | unreadableProfile (path : String) (defect : FileDefect)
  | settings (defect : SettingsDefect)
  deriving DecidableEq

/-- The words for a failure. -/
def Failure.message : Failure → String
  | .countersExhausted => "object id counter space exhausted"
  | .switchIndexesExhausted limit =>
      "switch index space exhausted (" ++ Text.decimal limit ++ " switches)"
  | .debugCountersExhausted limit =>
      "debug counter pool exhausted (" ++ Text.decimal limit ++ " in use)"
  | .testModeRequired op => op ++ " requires unit test mode"
  | .alreadyInitialized backend => backend.name ++ " already initialized"
  | .notSpawned worker reason => "failed to spawn " ++ worker ++ ": " ++ reason
  | .timedOut op key milliseconds =>
      op ++ " " ++ key ++ " timed out after " ++ Text.span milliseconds
  | .responsesClosed => "response channel closed"
  | .store defect => defect.message
  | .unexpectedReply expected actual => "expected " ++ expected ++ ", got " ++ actual
  | .missingCount stat => "response lacks " ++ stat.name
  | .malformedCount stat text defect => stat.name ++ "=" ++ text ++ ": " ++ defect.message
  | .someFailed failed total =>
      Text.decimal failed ++ " of " ++ Text.decimal total ++ " bulk elements failed"
  | .unreadableProfile path defect =>
      "failed to read profile " ++ path ++ ": " ++ defect.message
  | .settings defect => defect.message

end SwitchAbstraction
