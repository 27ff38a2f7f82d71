import ActorSilo.Membership
import ActorSilo.Scenario.Input
import ActorSilo.Json.Write

/-! # Scenarios about cluster membership

A script names the local silo and sets silo statuses. One listener hears every change,
once per subscription. Every step answers the local silo and its status, all statuses
in silo order, the active silos and what the listener heard in that step.
-/

namespace ActorSilo.Scenario

def membershipScenario (j : Json) : Parse Json := do
  let local_ ← match opt j "local" with
    | some s => silo s
    | none => pure (SiloAddress.localhost 1 1)
  let debug ← boolOr j "debug" false
  let steps ← list (← req j "steps")
  let visit (acc : List Json × Membership × Nat) (step : Json) :
      Parse (List Json × Membership × Nat) := do
    let (out, m, listeners) := acc
    let (m, listeners, heard) ← match ← strOr step "do" "" with
      | "update" =>
        let s ← silo (← req step "silo")
        let st ← siloStatus (← str (← req step "status"))
        let (m, changed) := m.update s st
        let heard := if changed then List.replicate listeners (s.render ++ " " ++ st.name) else []
        pure (m, listeners, heard)
      | "subscribe" => pure (m, listeners + 1, [])
      | other => throw s!"unknown membership step {other}"
    pure (out ++ [answerOf m heard], m, listeners)
  let (answers, m, _) ← steps.foldlM visit ([], Membership.make local_, 1)
  let shown := if debug then [("debug", Json.str m.structural)] else []
  pure (.obj (shown ++ [("steps", .arr answers)]))
where
  answerOf (m : Membership) (heard : List String) : Json :=
    let shown := [
      ("active", .arr (m.active.map (.str ·.render))),
      ("current", .str m.current.name),
      ("local", .str m.localSilo.render),
      ("notified", .arr (heard.map .str)),
      ("statuses", .arr (m.statuses.map fun (s, st) => .arr [.str s.render, .str st.name]))]
    .obj shown

end ActorSilo.Scenario
