import ActorSilo.Activation.Record
import ActorSilo.Scenario.Input
import ActorSilo.Scenario.Output

/-! # Scenarios about one activation record

A script describes an activation (grain, id, type name, reentrancy, stateless worker,
limit, silo, age limit and the states it moves through when made) and a list of steps
on it; the clock moves only when a step says so. Every step answers its result and a
snapshot of the activation.
-/

namespace ActorSilo.Scenario

/-- The activation a script describes, made at `now`. Its place `n` in the script gives
its default id and its default grain, the grain of type 1 keyed `g` and `n`; a given id
leaves the default grain as it is. -/
def activationOf (j : Json) (n : Nat) (now : Instant) : Parse Activation := do
  let id ← natOr j "id" n
  let g ← match opt j "grain" with
    | some g => grain g
    | none => pure (GrainId.mk 1 s!"g{n}" .grain)
  let s ← match opt j "silo" with
    | some s => silo s
    | none => pure (SiloAddress.localhost 1 1)
  let limit ← match opt j "limit" with
    | some (.arr [n, soft, hard]) => pure (LimitValue.mk (← str n) (← nat soft) (← nat hard))
    | some _ => throw "a limit is [name, soft, hard]"
    | none => pure ⟨"Test", 0, 0⟩
  let age ← match opt j "age_limit_ms" with
    | some d => duration d
    | none => pure (Duration.ofMillis 60000)
  let name ← strOr j "type_name" "Noop"
  let reentrant ← boolOr j "reentrant" false
  let worker ← boolOr j "stateless_worker" false
  let t : GrainType :=
    { code := g.grainType, name := name, reentrant := reentrant, statelessWorker := worker }
  let a := Activation.make ⟨s, g, id⟩ t limit age now
  let states ← match opt j "states" with
    | some l => (← list l).mapM fun x => do activationState (← str x)
    | none => pure []
  pure (states.foldl (fun a st => (a.setState st).1) a)

/-- The snapshot of an activation at `now`. -/
def activationSnapshot (a : Activation) (now : Instant) : Json :=
  Json.ofFields [("state", .str a.state.name), ("waiting", .nat a.waitingCount),
    ("running", Json.opt (fun t => .nat t.id) a.running), ("running_count", .nat a.runningCount),
    ("requests", .nat a.requestCount), ("inactive", .bool a.isInactive),
    ("idle_ms", .nat (a.idleness now).millisCapped), ("stale", .bool (a.isStale now)),
    ("kept_alive", .bool (a.keptAlive now)), ("candidate", .bool (a.isCandidate now)),
    ("keep_alive_ms", Json.opt (fun u => .nat (u.since now).millisCapped) a.keepAliveUntil),
    ("shutting_down", .bool a.shuttingDown),
    ("reason", Json.opt (fun r => .str r.name) a.reason),
    ("forward", Json.opt (fun f => .str f.render) a.forwardTo)]

/-- The request with correlation id `id` to the activation's grain. -/
def requestTo (a : Activation) (id : Nat) (flags : MessageFlags) : Message :=
  { Message.request id a.grain 1 1 [] with flags }

/-- The request a step describes at `now`: its id (0 by default), flags, and a time to
live that makes it expire; a time to live past the clock's range stops the script. -/
def requestOf (a : Activation) (step : Json) (now : Instant) : Build Message := do
  let m := requestTo a (← parsed (natOr step "id" 0)) (← parsed (flagsOr step "flags"))
  match opt step "ttl_ms" with
  | some t =>
    match now.add? (← parsed (duration t)) with
    | some e => pure { m with expiresAt := some e }
    | none => throw (.halted "overflow when adding duration to instant")
  | none => pure m

/-- One step on an activation at `now` (every step but moving the clock). -/
def recordStep (a : Activation) (step : Json) (now : Instant) : Build (Json × Activation) := do
  match ← parsed (strOr step "do" "") with
  | "set_state" =>
    let (a, moved) := a.setState (← parsed (do activationState (← str (← req step "to"))))
    pure (.bool moved, a)
  | "enqueue" =>
    match a.enqueue (← requestOf a step now) with
    | .ok a => pure (.str "ok", a)
    | .error e => pure (failureJson "EnqueueError::Invalid" e.message, a)
  | "peek" => pure (Json.opt (fun m => .nat m.id) a.peek?, a)
  | "dequeue" =>
    let (m, a) := a.dequeue
    pure (Json.opt (fun m => .nat m.id) m, a)
  | "may_accept" =>
    let m ← requestOf a step now
    let reentrant ← parsed (boolOr step "reentrant" a.grainType.reentrant)
    pure (.obj [("accept", .bool (a.mayAccept m reentrant)),
      ("interleave", .bool (a.mayInterleave m reentrant))], a)
  | "run" => pure (.str "ok", a.recordRunning (← requestOf a step now) now)
  | "finish" =>
    let (t, a) := a.resetRunning (← parsed (natOr step "id" 0)) now
    pure (Json.opt (fun t => .nat t.id) t, a)
  | "keep_alive" =>
    let d ← parsed (duration (← parsed (req step "ms")))
    pure (.str "ok", a.delayDeactivation d now)
  | "reset_keep_alive" => pure (.str "ok", a.resetKeepAlive)
  | "shutdown" =>
    let (a, first) := a.startShuttingDown (← parsed (do reason (← str (← req step "reason"))))
    pure (.bool first, a)
  | "add_on_inactive" =>
    pure (.str "ok", a.addOnIdle (.mark (← parsed (do str (← req step "tag")))))
  | "take_on_inactive" =>
    let (acts, a) := a.takeOnIdle
    let tags := acts.filterMap fun | .mark t => some t | .destroy => none
    pure (.obj [("log", .arr (tags.map .str)), ("ran", .nat acts.length)], a)
  | "take_pending" =>
    let (ms, a) := a.takePending
    pure (.arr (ms.map fun m => .nat m.id), a)
  | "check_overloaded" =>
    match a.checkOverloaded with
    | .ok () => pure (.str "ok", a)
    | .error e =>
      pure (.obj [("count", .nat e.count), ("error", .str "LimitExceeded"), ("hard", .nat e.hard),
        ("message", .str e.message)], a)
  | "detail" => pure (.str (a.detailed now), a)
  | "debug" =>
    pure (.obj [("age_ms", .nat (now.since a.created).millisCapped), ("debug", .str a.structural)], a)
  | "display" =>
    pure (.obj [("display", .str a.render), ("exempt", .bool a.isExempt),
      ("limit", .arr [.str a.limit.name, .nat a.limit.soft, .nat a.limit.hard]),
      ("reentrant", .bool a.grainType.reentrant), ("state", .str a.state.name),
      ("worker", .bool a.grainType.statelessWorker)], a)
  | _ => throw (.badInput s!"unknown record step {Json.compact step}")

/-- Where an `advance` step moves the clock from `now`; moving it past the clock's
range stops the script. -/
def advanceBy (step : Json) (now : Instant) : Build (Option Instant) := do
  if (← parsed (strOr step "do" "")) == "advance" then
    match now.after (← parsed (duration (← parsed (req step "ms")))) with
    | .ok t => pure (some t)
    | .error _ => throw (.halted ClockOverflow.message)
  else pure none

def recordScenario (j : Json) : Build Json := do
  let a ← parsed (activationOf j 1 0)
  let steps ← parsed (do list (← req j "steps"))
  let (answers, _, _) ← steps.foldlM (fun (acc : List Json × Activation × Instant) step => do
      let (out, act, now) := acc
      match ← advanceBy step now with
      | some now => pure (out ++ [answerOf (.str "ok") act now], act, now)
      | none =>
        let (r, act) ← recordStep act step now
        pure (out ++ [answerOf r act now], act, now))
    ([], a, 0)
  pure (.obj [("steps", .arr answers)])
where
  answerOf (r : Json) (a : Activation) (now : Instant) : Json :=
    .obj [("r", r), ("s", activationSnapshot a now)]

end ActorSilo.Scenario
