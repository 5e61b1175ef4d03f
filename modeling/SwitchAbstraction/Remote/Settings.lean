import SwitchAbstraction.Checks
import SwitchAbstraction.Configuration

/-!
# Settings of the remote backend

How long a call waits for its response, and where the shared store is reached.
-/

namespace SwitchAbstraction

namespace Remote

/-- What the remote backend is started with. -/
structure Settings where
  /-- How long a call waits for its response, in milliseconds. -/
  timeout : Nat
  deriving DecidableEq

namespace Settings

/-- The profile key of the timeout. -/
def timeoutKey : String :=
  "SAI_REDIS_SYNC_TIMEOUT_MS"

/-- A timeout of one minute. -/
def standard : Settings :=
  ⟨60000⟩

/-- Reads the settings through the accessors of a profile. -/
def ofServices (services : Services) : Except Fault Settings :=
  match services.value? timeoutKey with
  | none => .ok standard
  | some text =>
      (Text.parseNumber timeoutKey UInt64.size text (Text.trim text.toList)).map fun timeout =>
        ⟨timeout⟩

end Settings

/-- Where a shared store is reached. -/
structure StoreAddress where
  host : String
  port : Nat
  database : Nat
  deriving DecidableEq

namespace StoreAddress

/-- The store on the same machine, with the database of switch state. -/
def standard : StoreAddress :=
  ⟨"127.0.0.1", 6379, 1⟩

/-- The address as a uniform resource identifier. -/
def uri (address : StoreAddress) : String :=
  "redis://" ++ address.host ++ ":" ++ Text.decimal address.port ++ "/" ++
    Text.decimal address.database

end StoreAddress

end Remote

end SwitchAbstraction
