import ActorSilo.Message.Basic
import ActorSilo.Json.Syntax
import ActorSilo.Text.Quoted

/-! # Failures

The failures of each part of a silo, as values. Each kind of failure has three views:

* `message`, the sentence shown to people;
* `structural`, the constructor form with every field, as diagnostics print it
  (`Directory(Unavailable("p"))`);
* `causes`, the sentences of the failures it wraps, outermost first.

A wrapping failure shows its cause inside its own sentence. The silo's own failures pass
the catalog, placement and directory failures through unchanged: sentence and causes are
those of the wrapped failure.
-/

namespace ActorSilo

/-- `Some("…")` or `None`. -/
def optionText (s : Option String) : String :=
  match s with
  | some t => "Some(" ++ Text.quoted t ++ ")"
  | none => "None"

namespace CallChainEntry

/-- `CallChainEntry { grain: …, activation: ActivationId(n), interface_id: i, method_id: m }`. -/
def structural (e : CallChainEntry) : String :=
  "CallChainEntry \x7b grain: " ++ e.grain.structural ++ ", activation: ActivationId(" ++
    toString e.activation ++ "), interface_id: " ++ toString e.interfaceId ++ ", method_id: " ++
    toString e.methodId ++ " \x7d"

end CallChainEntry

namespace Json.Error

/-- `Error("message", line: l, column: c)`. -/
def structural (e : Json.Error) : String :=
  "Error(" ++ Text.quoted e.message ++ ", line: " ++ toString e.line ++ ", column: " ++
    toString e.column ++ ")"

end Json.Error

/-- Why the idle-collection wheel refused a request. -/
inductive CollectorError where
  | alreadyScheduled (who : String)
  /-- The timeout is shorter than one wheel slot. -/
  | timeoutBelowQuantum (timeout quantum : Duration)
  /-- The ticket would land in a slot that was already scanned. -/
  | ticketExpired
  | exempt (who : String)
  deriving BEq, DecidableEq, Repr, Inhabited

namespace CollectorError

def message : CollectorError → String
  | alreadyScheduled w => "activation " ++ w ++ " is already scheduled for collection"
  | timeoutBelowQuantum t q => "collection timeout " ++ t.render ++ " is below the quantum " ++ q.render
  | ticketExpired => "collection ticket is already expired"
  | exempt w => "activation " ++ w ++ " is exempt from collection"

def structural : CollectorError → String
  | alreadyScheduled w => "AlreadyScheduled(" ++ Text.quoted w ++ ")"
  | timeoutBelowQuantum t q =>
    "TimeoutBelowQuantum \x7b timeout: " ++ t.render ++ ", quantum: " ++ q.render ++ " \x7d"
  | ticketExpired => "TicketExpired"
  | exempt w => "Exempt(" ++ Text.quoted w ++ ")"

def name : CollectorError → String
  | alreadyScheduled _ => "AlreadyScheduled"
  | timeoutBelowQuantum _ _ => "TimeoutBelowQuantum"
  | ticketExpired => "TicketExpired"
  | exempt _ => "Exempt"

end CollectorError

inductive DirectoryError where
  | unavailable (why : String)
  | timeout
  deriving BEq, DecidableEq, Repr, Inhabited

namespace DirectoryError

def message : DirectoryError → String
  | unavailable w => "directory unavailable: " ++ w
  | timeout => "directory operation timed out"

def structural : DirectoryError → String
  | unavailable w => "Unavailable(" ++ Text.quoted w ++ ")"
  | timeout => "Timeout"

def name : DirectoryError → String
  | unavailable _ => "Unavailable"
  | timeout => "Timeout"

end DirectoryError

inductive StorageError where
  /-- A state document could not be read. -/
  | serialization (cause : Json.Error)
  /-- The writer's version tag is not the stored one. -/
  | etagMismatch (expected actual : Option String)
  | unavailable (why : String)
  | unknownProvider (name : String)
  deriving Inhabited

namespace StorageError

def message : StorageError → String
  | serialization e => "serialization error: " ++ e.render
  | etagMismatch e a => "etag mismatch: expected " ++ optionText e ++ ", found " ++ optionText a
  | unavailable w => "storage unavailable: " ++ w
  | unknownProvider n => "unknown storage provider: " ++ n

def structural : StorageError → String
  | serialization e => "Serialization(" ++ e.structural ++ ")"
  | etagMismatch e a => "ETagMismatch \x7b expected: " ++ optionText e ++ ", actual: " ++ optionText a ++ " \x7d"
  | unavailable w => "Unavailable(" ++ Text.quoted w ++ ")"
  | unknownProvider n => "UnknownProvider(" ++ Text.quoted n ++ ")"

def causes : StorageError → List String
  | serialization e => [e.render]
  | _ => []

def name : StorageError → String
  | serialization _ => "Serialization"
  | etagMismatch _ _ => "ETagMismatch"
  | unavailable _ => "Unavailable"
  | unknownProvider _ => "UnknownProvider"

end StorageError

/-- Why no silo was chosen for a new activation. -/
inductive PlacementError where
  | noCandidates (grain : GrainId)
  /-- Clients are reached through their gateway and never placed. -/
  | unregisteredClient (grain : GrainId)
  | directory (cause : DirectoryError)
  deriving BEq, DecidableEq, Repr, Inhabited

namespace PlacementError

def message : PlacementError → String
  | noCandidates g => "no compatible silo for " ++ g.render
  | unregisteredClient g => "client " ++ g.render ++ " is not registered with any gateway"
  | directory d => "placement lookup failed: " ++ d.message

def structural : PlacementError → String
  | noCandidates g => "NoCandidates(" ++ g.structural ++ ")"
  | unregisteredClient g => "UnregisteredClient(" ++ g.structural ++ ")"
  | directory d => "Directory(" ++ d.structural ++ ")"

def causes : PlacementError → List String
  | directory d => [d.message]
  | _ => []

def name : PlacementError → String
  | noCandidates _ => "NoCandidates"
  | unregisteredClient _ => "UnregisteredClient"
  | directory _ => "Directory"

end PlacementError

inductive GrainError where
  | unknownMethod (interfaceId methodId : Nat)
  | failed (text : String)
  deriving BEq, DecidableEq, Repr, Inhabited

namespace GrainError

def message : GrainError → String
  | unknownMethod i m => "unknown method " ++ toString i ++ "." ++ toString m
  | failed t => t

def structural : GrainError → String
  | unknownMethod i m =>
    "UnknownMethod \x7b interface_id: " ++ toString i ++ ", method_id: " ++ toString m ++ " \x7d"
  | failed t => "Failed(" ++ Text.quoted t ++ ")"

end GrainError

/-- A mailbox over its hard limit. -/
structure LimitExceeded where
  limitName : String
  count : Nat
  hard : Nat
  deriving BEq, DecidableEq, Repr, Inhabited

namespace LimitExceeded

/-- `Name exceeded: n requests (hard limit h)`. -/
def message (e : LimitExceeded) : String :=
  e.limitName ++ " exceeded: " ++ toString e.count ++ " requests (hard limit " ++ toString e.hard ++ ")"

def structural (e : LimitExceeded) : String :=
  "LimitExceeded \x7b limit_name: " ++ Text.quoted e.limitName ++ ", count: " ++ toString e.count ++
    ", hard: " ++ toString e.hard ++ " \x7d"

end LimitExceeded

/-- Why a mailbox refused a message: the activation is invalid. -/
inductive EnqueueError where
  | invalid (who : String)
  deriving BEq, DecidableEq, Repr, Inhabited

namespace EnqueueError

def message : EnqueueError → String
  | invalid w => "activation " ++ w ++ " is invalid"

def structural : EnqueueError → String
  | invalid w => "Invalid(" ++ Text.quoted w ++ ")"

end EnqueueError

inductive ActivationError where
  /-- Another activation of the grain won registration. -/
  | duplicate (winner : ActivationAddress)
  | unknownGrainType (grainType : Nat)
  | storage (cause : StorageError)
  | directory (cause : DirectoryError)
  | hook (cause : GrainError)
  /-- The activation was invalidated while it started. -/
  | invalidated
  deriving Inhabited

namespace ActivationError

def message : ActivationError → String
  | duplicate w => "duplicate activation, winner is " ++ w.render
  | unknownGrainType t => "unknown grain type " ++ GrainId.typeText t
  | storage s => "state load failed: " ++ s.message
  | directory d => "directory registration failed: " ++ d.message
  | hook g => "activate hook failed: " ++ g.message
  | invalidated => "activation invalidated during initialization"

def structural : ActivationError → String
  | duplicate w => "Duplicate(" ++ w.structural ++ ")"
  | unknownGrainType t => "UnknownGrainType(GrainType(" ++ toString t ++ "))"
  | storage s => "Storage(" ++ s.structural ++ ")"
  | directory d => "Directory(" ++ d.structural ++ ")"
  | hook g => "Hook(" ++ g.structural ++ ")"
  | invalidated => "Invalidated"

def causes : ActivationError → List String
  | storage s => s.message :: s.causes
  | directory d => [d.message]
  | hook g => [g.message]
  | _ => []

end ActivationError

/-- Why the catalog could not find or make an activation. -/
inductive CatalogError where
  /-- The activation is not here and no placement came with the message. -/
  | nonExistentActivation (address : ActivationAddress)
  | notAddressed
  | unknownGrainType (grainType : Nat)
  | activation (cause : ActivationError)
  | notRunning
  deriving Inhabited

namespace CatalogError

def message : CatalogError → String
  | nonExistentActivation a => "non-existent activation " ++ a.render
  | notAddressed => "message is not fully addressed"
  | unknownGrainType t => "unknown grain type " ++ GrainId.typeText t
  | activation a => "activation failed: " ++ a.message
  | notRunning => "silo runtime is not running"

def structural : CatalogError → String
  | nonExistentActivation a => "NonExistentActivation(" ++ a.structural ++ ")"
  | notAddressed => "NotAddressed"
  | unknownGrainType t => "UnknownGrainType(GrainType(" ++ toString t ++ "))"
  | activation a => "Activation(" ++ a.structural ++ ")"
  | notRunning => "NotRunning"

def causes : CatalogError → List String
  | activation a => a.message :: a.causes
  | _ => []

def name : CatalogError → String
  | nonExistentActivation _ => "NonExistentActivation"
  | notAddressed => "NotAddressed"
  | unknownGrainType _ => "UnknownGrainType"
  | activation _ => "Activation"
  | notRunning => "NotRunning"

end CatalogError

/-- What a caller sees of a failed request. -/
inductive RequestError where
  | rejected (kind : RejectionKind) (reason : String)
  | deadlock (chain : List CallChainEntry)
  | timeout (after : Duration)
  | fault (text : String)
  /-- The request's completion was dropped without an outcome. -/
  | abandoned
  | sendFailed (why : String)
  deriving BEq, DecidableEq, Repr, Inhabited

namespace RequestError

def message : RequestError → String
  | rejected k r => "request rejected (" ++ k.name ++ "): " ++ r
  | deadlock c => "deadlock detected along call chain of " ++ toString c.length ++ " hops"
  | timeout d => "request timed out after " ++ d.render
  | fault t => "grain method failed: " ++ t
  | abandoned => "request was abandoned"
  | sendFailed w => "send failed: " ++ w

def structural : RequestError → String
  | rejected k r => "Rejected \x7b kind: " ++ k.name ++ ", reason: " ++ Text.quoted r ++ " \x7d"
  | deadlock c => "Deadlock \x7b chain: [" ++ ", ".intercalate (c.map CallChainEntry.structural) ++ "] \x7d"
  | timeout d => "Timeout(" ++ d.render ++ ")"
  | fault t => "Fault(" ++ Text.quoted t ++ ")"
  | abandoned => "Abandoned"
  | sendFailed w => "SendFailed(" ++ Text.quoted w ++ ")"

def name : RequestError → String
  | rejected _ _ => "Rejected"
  | deadlock _ => "Deadlock"
  | timeout _ => "Timeout"
  | fault _ => "Fault"
  | abandoned => "Abandoned"
  | sendFailed _ => "SendFailed"

end RequestError

/-- The outcome a response gives its caller: the body on success, else the failure. -/
def Response.toResult : Option Response → Except RequestError (List UInt8)
  | some (.success body) => .ok body
  | some (.fault (.application t)) => .error (.fault t)
  | some (.fault (.deadlock c)) => .error (.deadlock c)
  | some (.fault (.timeout d)) => .error (.timeout d)
  | some (.rejection k r) => .error (.rejected k r)
  | none => .error (.fault "response without outcome")

inductive SiloError where
  | catalog (cause : CatalogError)
  | placement (cause : PlacementError)
  | directory (cause : DirectoryError)
  /-- The configuration document could not be read. -/
  | config (cause : Json.Error)
  | shuttingDown
  | noRuntime
  deriving Inhabited

namespace SiloError

/-- The sentence of the failure; wrapped catalog, placement and directory failures show
their own. -/
def message : SiloError → String
  | catalog c => c.message
  | placement p => p.message
  | directory d => d.message
  | config e => "invalid configuration: " ++ e.render
  | shuttingDown => "silo is shutting down"
  | noRuntime => "silo must be started from within a tokio runtime"

def structural : SiloError → String
  | catalog c => "Catalog(" ++ c.structural ++ ")"
  | placement p => "Placement(" ++ p.structural ++ ")"
  | directory d => "Directory(" ++ d.structural ++ ")"
  | config e => "Config(" ++ e.structural ++ ")"
  | shuttingDown => "ShuttingDown"
  | noRuntime => "NoRuntime"

/-- The sentences of the wrapped failures; wrapped catalog, placement and directory
failures show their own. -/
def causes : SiloError → List String
  | catalog c => c.causes
  | placement p => p.causes
  | directory _ => []
  | config e => [e.render]
  | _ => []

/-- The kind of the failure: `SiloError::Case`, and for catalog failures also the
catalog case. -/
def kind : SiloError → String
  | catalog c => "SiloError::Catalog/CatalogError::" ++ c.name
  | placement _ => "SiloError::Placement"
  | directory _ => "SiloError::Directory"
  | config _ => "SiloError::Config"
  | shuttingDown => "SiloError::ShuttingDown"
  | noRuntime => "SiloError::NoRuntime"

end SiloError

end ActorSilo
