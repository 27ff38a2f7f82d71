import ActorSilo.Error
import ActorSilo.Json.Write
import ActorSilo.Scenario.Input

/-! # Scenarios about failures

A script names a kind of failure (`type`) and gives one value of it (`value`) as
`"Case"` or `{"Case": content}`; a wrapping case holds the wrapped failure in the same
form. The answer shows the sentence, the constructor form and the causes of the value,
and, for kinds that can be copied and compared, whether a copy equals it and whether it
equals a second value (`other`).
-/

namespace ActorSilo.Scenario

/-- The case name and content of a failure value. -/
def caseOf (j : Json) : Parse (String × Json) :=
  match j with
  | .str name => pure (name, .null)
  | .obj [(name, content)] => pure (name, content)
  | other => throw ("error value is \"Variant\" or \x7b\"Variant\": payload\x7d: " ++ Json.compact other)

def unknownCase {α : Type} (kind name : String) : Parse α :=
  throw s!"unknown {kind} variant {name}"

/-- A text that is not JSON, and the failure of reading it. -/
def readingFailure (j : Json) : Parse Json.Error := do
  match Json.parse (← str j) with
  | .ok _ => throw "text parses as JSON"
  | .error e => pure e

def collectorError (j : Json) : Parse CollectorError := do
  match ← caseOf j with
  | ("AlreadyScheduled", c) => pure (.alreadyScheduled (← str c))
  | ("TimeoutBelowQuantum", c) =>
    pure (.timeoutBelowQuantum (← duration (← req c "timeout_ms")) (← duration (← req c "quantum_ms")))
  | ("TicketExpired", _) => pure .ticketExpired
  | ("Exempt", c) => pure (.exempt (← str c))
  | (n, _) => unknownCase "CollectorError" n

def directoryError (j : Json) : Parse DirectoryError := do
  match ← caseOf j with
  | ("Unavailable", c) => pure (.unavailable (← str c))
  | ("Timeout", _) => pure .timeout
  | (n, _) => unknownCase "DirectoryError" n

def optStr (j : Json) (k : String) : Parse (Option String) :=
  match opt j k with
  | some v => some <$> str v
  | none => pure none

def storageError (j : Json) : Parse StorageError := do
  match ← caseOf j with
  | ("Serialization", c) => pure (.serialization (← readingFailure c))
  | ("ETagMismatch", c) => pure (.etagMismatch (← optStr c "expected") (← optStr c "actual"))
  | ("Unavailable", c) => pure (.unavailable (← str c))
  | ("UnknownProvider", c) => pure (.unknownProvider (← str c))
  | (n, _) => unknownCase "StorageError" n

def placementError (j : Json) : Parse PlacementError := do
  match ← caseOf j with
  | ("NoCandidates", c) => pure (.noCandidates (← grain c))
  | ("UnregisteredClient", c) => pure (.unregisteredClient (← grain c))
  | ("Directory", c) => pure (.directory (← directoryError c))
  | (n, _) => unknownCase "PlacementError" n

def grainError (j : Json) : Parse GrainError := do
  match ← caseOf j with
  | ("UnknownMethod", c) => pure (.unknownMethod (← boundedOr c "iface" 32 0) (← boundedOr c "method" 32 0))
  | ("Failed", c) => pure (.failed (← str c))
  | (n, _) => unknownCase "GrainError" n

def limitExceeded (j : Json) : Parse LimitExceeded := do
  pure ⟨← str (← req j "limit_name"), ← nat (← req j "count"), ← nat (← req j "hard")⟩

def enqueueError (j : Json) : Parse EnqueueError := do
  match ← caseOf j with
  | ("Invalid", c) => pure (.invalid (← str c))
  | (n, _) => unknownCase "EnqueueError" n

def activationError (j : Json) : Parse ActivationError := do
  match ← caseOf j with
  | ("Duplicate", c) => pure (.duplicate (← address c))
  | ("UnknownGrainType", c) => pure (.unknownGrainType (← nat c))
  | ("Storage", c) => pure (.storage (← storageError c))
  | ("Directory", c) => pure (.directory (← directoryError c))
  | ("Hook", c) => pure (.hook (← grainError c))
  | ("Invalidated", _) => pure .invalidated
  | (n, _) => unknownCase "ActivationError" n

def catalogError (j : Json) : Parse CatalogError := do
  match ← caseOf j with
  | ("NonExistentActivation", c) => pure (.nonExistentActivation (← address c))
  | ("NotAddressed", _) => pure .notAddressed
  | ("UnknownGrainType", c) => pure (.unknownGrainType (← nat c))
  | ("Activation", c) => pure (.activation (← activationError c))
  | ("NotRunning", _) => pure .notRunning
  | (n, _) => unknownCase "CatalogError" n

def requestError (j : Json) : Parse RequestError := do
  match ← caseOf j with
  | ("Rejected", c) => pure (.rejected (← rejectionKind (← str (← req c "kind"))) (← strOr c "reason" ""))
  | ("Deadlock", c) => pure (.deadlock (← (← list (← req c "chain")).mapM chainEntry))
  | ("Timeout", c) => pure (.timeout (← duration c))
  | ("Fault", c) => pure (.fault (← str c))
  | ("Abandoned", _) => pure .abandoned
  | ("SendFailed", c) => pure (.sendFailed (← str c))
  | (n, _) => unknownCase "RequestError" n

def siloError (j : Json) : Parse SiloError := do
  match ← caseOf j with
  | ("Catalog", c) => pure (.catalog (← catalogError c))
  | ("Placement", c) => pure (.placement (← placementError c))
  | ("Directory", c) => pure (.directory (← directoryError c))
  | ("Config", c) => pure (.config (← readingFailure c))
  | ("ShuttingDown", _) => pure .shuttingDown
  | ("NoRuntime", _) => pure .noRuntime
  | (n, _) => unknownCase "SiloError" n

def described (message structural : String) (causes : List String) : List (String × Json) :=
  [("debug", .str structural), ("display", .str message), ("sources", .arr (causes.map .str))]

/-- The comparisons of a kind whose values can be copied and compared. -/
def compared {α : Type} [BEq α] (read : Json → Parse α) (v : α) (j : Json) (copies : Bool) :
    Parse (List (String × Json)) := do
  let copy := if copies then [("clone_eq", Json.bool (v == v))] else []
  match opt j "other" with
  | some o => pure (copy ++ [("eq_other", .bool ((← read o) == v))])
  | none => pure copy

def failure (j : Json) : Parse Json := do
  let v ← req j "value"
  let fields ← match ← str (← req j "type") with
    | "CollectorError" => do
      let e ← collectorError v
      pure (described e.message e.structural [] ++ (← compared collectorError e j false))
    | "DirectoryError" => do
      let e ← directoryError v
      pure (described e.message e.structural [] ++ (← compared directoryError e j true))
    | "StorageError" => do
      let e ← storageError v
      pure (described e.message e.structural e.causes)
    | "PlacementError" => do
      let e ← placementError v
      pure (described e.message e.structural e.causes ++ (← compared placementError e j true))
    | "GrainError" => do
      let e ← grainError v
      pure (described e.message e.structural [] ++ (← compared grainError e j true))
    | "LimitExceeded" => do
      let e ← limitExceeded v
      pure (described e.message e.structural [] ++ (← compared limitExceeded e j true))
    | "EnqueueError" => do
      let e ← enqueueError v
      pure (described e.message e.structural [] ++ (← compared enqueueError e j true))
    | "ActivationError" => do
      let e ← activationError v
      pure (described e.message e.structural e.causes)
    | "CatalogError" => do
      let e ← catalogError v
      pure (described e.message e.structural e.causes)
    | "RequestError" => do
      let e ← requestError v
      pure (described e.message e.structural [] ++ [("kind", .str e.name)] ++
        (← compared requestError e j true))
    | "SiloError" => do
      let e ← siloError v
      pure (described e.message e.structural e.causes ++ [("kind", .str e.kind)])
    | other => throw s!"unknown error type {other}"
  pure (Json.ofFields fields)

end ActorSilo.Scenario
