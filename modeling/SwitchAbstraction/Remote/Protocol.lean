import SwitchAbstraction.Message

/-!
# The request protocol

A request names the object in its key and carries attributes as fields, each
value as JSON.  A response names the status in its key and carries what was
asked for as fields.
-/

namespace SwitchAbstraction

namespace Remote

/-- The channel of requests. -/
def requestChannel : String :=
  "ASIC_STATE"

/-- The channel of responses. -/
def responseChannel : String :=
  "GETRESPONSE"

/-- The channel of notifications. -/
def notificationChannel : String :=
  "NOTIFICATIONS"

/-- The counter that ids are drawn from. -/
def idCounter : String :=
  "VIDCOUNTER"

/-- The operations of requests. -/
inductive RequestOp
  | create
  | remove
  | set
  | get
  | readStats
  | clearStats
  | flush
  deriving DecidableEq

/-- The word for an operation. -/
def RequestOp.name : RequestOp → String
  | .create => "create"
  | .remove => "remove"
  | .set => "set"
  | .get => "get"
  | .readStats => "get_stats"
  | .clearStats => "clear_stats"
  | .flush => "flush_fdb"

/-- The operation of every response. -/
def responseOp : String :=
  "getresponse"

/-- The field that carries the mode of a request for statistics. -/
def statsModeField : String :=
  "STATS_MODE"

/-- A request about an object. -/
def request (op : String) (key : ObjectKey) (fields : List Field) : Message :=
  ⟨op, key.text, fields⟩

/-- One empty field for each statistic. -/
def statFields (stats : List Stat) : List Field :=
  stats.map fun stat => (stat.name, "")

/-- A request for statistics. -/
def statsRequest (key : ObjectKey) (stats : List Stat) (mode : StatsMode) : Message :=
  request RequestOp.readStats.name key ((statsModeField, mode.name) :: statFields stats)

/-- A response. -/
def response (status : Status) (fields : List Field) : Message :=
  ⟨responseOp, status.name, fields⟩

/-- Reads a response. -/
def parseResponse (message : Message) : Except Fault (Status × List Field) :=
  if message.op ≠ responseOp then
    .error (.failed (.unexpectedReply responseOp message.op))
  else (Vocabulary.parse Status message.key).map fun status => (status, message.fields)

/-- The count of a statistic among the fields of a response. -/
def countOf (fields : List Field) (stat : Stat) : Except Fault UInt64 :=
  match fields.find? fun field => field.1 = stat.name with
  | none => .error (.failed (.missingCount stat))
  | some (_, text) =>
      match Text.readUnsigned 10 UInt64.size text.toList with
      | .ok count => .ok (UInt64.ofNat count)
      | .error defect => .error (.failed (.malformedCount stat text defect))

/-- The counts of statistics among the fields of a response, in the order asked for. -/
def decodeCounts (stats : List Stat) (fields : List Field) : Except Fault (List UInt64) :=
  stats.mapM (countOf fields)

end Remote

end SwitchAbstraction
