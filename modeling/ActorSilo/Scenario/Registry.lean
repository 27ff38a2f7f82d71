import ActorSilo.Activation.Registry
import ActorSilo.Scenario.Record

/-! # Scenarios about the activation registry

A script records and removes activations described as in record scenarios and looks
them up by id and by grain. An activation is described once, by the first step that
adds its id. Every step answers its result, the number of recorded
activations, the counts by type name and the recorded ids in order.
-/

namespace ActorSilo.Scenario

/-- One step on the registry; `made` holds the activations described so far, by id. An
activation stays described after it is removed, and adding an id described before adds
that same activation again. -/
def registryStep (r : Registry) (made : List Activation) (step : Json) :
    Parse (Json × Registry × List Activation) := do
  let known : Parse Activation := do
    let id ← nat (← req step "id")
    match made.find? (·.id == id) with
    | some a => pure a
    | none => throw "unknown record"
  match ← strOr step "do" "" with
  | "add" =>
    let id ← nat (← req step "id")
    match made.find? (·.id == id) with
    | some a => pure (.str "ok", r.record a, made)
    | none =>
      let a ← activationOf step id 0
      pure (.str "ok", r.record a, a :: made)
  | "remove" =>
    let (r, removed) := r.remove (← known)
    pure (.bool removed, r, made)
  | "find" => pure (Json.opt .nat (r.find? (← nat (← req step "id"))), r, made)
  | "find_grain" =>
    let ids := r.targets (← grain (← req step "grain"))
    pure (.obj [("count", .nat ids.length), ("ids", .arr (ids.map .nat))], r, made)
  | other => throw s!"unknown registry step {other}"

def registryScenario (j : Json) : Parse Json := do
  let steps ← list (← req j "steps")
  let visit (acc : List Json × Registry × List Activation) (step : Json) :
      Parse (List Json × Registry × List Activation) := do
    let (out, r, made) := acc
    let (res, r, made) ← registryStep r made step
    let shown := [("all", .arr ((r.ids.mergeSort (· ≤ ·)).map .nat)), ("count", .nat r.count),
      ("r", res), ("types", .arr (r.typeCounts.map fun (n, c) => .arr [.str n, .nat c]))]
    pure (out ++ [.obj shown], r, made)
  let (answers, _, _) ← steps.foldlM visit ([], {}, [])
  pure (.obj [("steps", .arr answers)])

end ActorSilo.Scenario
