import ActorSilo.Scenario.Input

/-! # Scenarios about identities and lifecycles

`identities` shows the display texts of a silo, a grain, an activation id, an address
and a correlation id. `lifecycle` answers questions about activation states
(display, usability, legal moves, order), deactivation reasons, silo statuses,
rejection kinds and placement strategies.
-/

namespace ActorSilo.Scenario

/-- The display texts of the identities named by the script. -/
def identities (j : Json) : Parse Json := do
  let s ← silo (← req j "silo")
  let g ← grain (← req j "grain")
  let a ← natOr j "activation" 0
  let c ← natOr j "corr" 0
  pure (.obj [("silo", .str s.render), ("grain", .str g.render), ("is_client", .bool g.isClient),
    ("is_system", .bool g.isSystem), ("activation", .str (activationText a)),
    ("address", .str (ActivationAddress.render ⟨s, g, a⟩)), ("corr", .str (correlationText c))])

/-- Facts about the lifecycle values named by the script. -/
def lifecycle (j : Json) : Parse Json := do
  let mut out : List (String × Json) := []
  if let some f := opt j "from" then
    let st ← activationState (← str f)
    out := out ++ [("display", .str st.name), ("usable", .bool st.isUsable),
      ("terminal", .bool st.isTerminal)]
    if let some t := opt j "to" then
      let next ← activationState (← str t)
      out := out ++ [("can_transition", .bool (st.canMoveTo next)), ("less", .bool (st.rank < next.rank))]
  if let some r := opt j "reason" then
    out := out ++ [("runtime_initiated", .bool (← reason (← str r)).isRuntimeInitiated)]
  if let some s := opt j "status" then
    let st ← siloStatus (← str s)
    out := out ++ [("terminating", .bool st.isTerminating), ("status_display", .str st.name)]
  if let some r := opt j "rejection" then
    out := out ++ [("rejection_display", .str (← rejectionKind (← str r)).name)]
  if let some s := opt j "strategy" then
    out := out ++ [("multi_activation", .bool (← strategy s).isMultiActivation)]
  pure (.obj out)

end ActorSilo.Scenario
