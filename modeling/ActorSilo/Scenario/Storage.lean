import ActorSilo.Storage
import ActorSilo.Scenario.Input
import ActorSilo.Scenario.Output

/-! # Scenarios about grain state storage

A script registers one store under some names and reads, writes and clears grain
states in it. Every step answers its result; a refused write or clear, and an unknown
store name, answer the storage failure.
-/

namespace ActorSilo.Scenario

def storageErrorJson (e : StorageError) : Json := failureJson ("StorageError::" ++ e.name) e.message

def storeReplyJson : Store.Reply → Json
  | .state st => Json.opt (fun st =>
      Json.obj [("data", .str (Text.hexOfBytes st.data)), ("etag", .str st.etag)]) st
  | .written tag => .obj [("etag", .str tag)]
  | .cleared => .str "ok"
  | .refused e => storageErrorJson e

/-- One step on the store; `names` are the names it is registered under. -/
def storageStep (names : List String) (s : Store) (step : Json) : Parse (Json × Store) := do
  let typeName : Parse String := strOr step "type" "Counter"
  let target : Parse GrainId := do grain (← req step "grain")
  let etag : Parse (Option String) := match opt step "etag" with
    | some e => some <$> str e
    | none => pure none
  let answer (c : Store.Call) : Parse (Json × Store) :=
    let (s, r) := s.call c
    pure (storeReplyJson r, s)
  match ← strOr step "do" "" with
  | "read" =>
    let typeName ← typeName
    let _ ← etag
    answer (.read typeName (← target))
  | "write" =>
    let typeName ← typeName
    let etag ← etag
    answer (.write typeName (← target) (← bytes (← req step "data")) etag)
  | "clear" =>
    let typeName ← typeName
    let etag ← etag
    answer (.clear typeName (← target) etag)
  | "provider" =>
    match Store.named (names.map (·, ())) (← str (← req step "name")) with
    | .ok () => pure (.str "ok", s)
    | .error e => pure (storageErrorJson e, s)
  | other => throw s!"unknown storage step {other}"

def storageScenario (j : Json) : Parse Json := do
  let names ← match opt j "providers" with
    | some l => (← list l).mapM str
    | none => pure []
  let steps ← list (← req j "steps")
  let visit (acc : List Json × Store) (step : Json) : Parse (List Json × Store) := do
    let (out, s) := acc
    let (r, s) ← storageStep names s step
    pure (out ++ [r], s)
  let (answers, _) ← steps.foldlM visit ([], {})
  pure (.obj [("steps", .arr answers)])

end ActorSilo.Scenario
