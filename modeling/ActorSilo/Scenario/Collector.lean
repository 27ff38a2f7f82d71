import ActorSilo.Activation.Collector
import ActorSilo.Scenario.Record
import ActorSilo.Json.Duration

/-! # Scenarios about the idle-collection wheel

A script makes a wheel and some activations (by default idle: moved through
`Activating` to `Inactive`), then runs steps on them: scheduling, cancelling and
rescheduling, both scans, moving the clock, and any step on one activation. Every step
answers its result, the wheel's diagnostic text and the ticket of every activation.
-/

namespace ActorSilo.Scenario

/-- A wheel and the activations it works on. -/
structure Yard where
  wheel : Collector
  acts : List Activation

namespace Yard

def withActs (y : Yard) (acts : List Activation) : Yard :=
  { y with acts := y.acts.map fun b => (Collector.find? acts b.id).getD b }

def act? (y : Yard) (id : Nat) : Option Activation := y.acts.find? (·.id == id)

def setAct (y : Yard) (a : Activation) : Yard :=
  { y with acts := y.acts.map fun x => if x.id == a.id then a else x }

end Yard

def collectorErrorJson (e : CollectorError) : Json := failureJson ("CollectorError::" ++ e.name) e.message

def noOverflow {α : Type} : Except ClockOverflow α → Build α
  | .ok a => pure a
  | .error _ => throw (.halted ClockOverflow.message)

/-- One step on the wheel at `now`. -/
def wheelStep (y : Yard) (step : Json) (now : Instant) : Build (Json × Yard) := do
  let kind ← parsed (strOr step "do" "")
  let item : Build Activation := do
    let id ← parsed (nat (← parsed (req step "item")))
    match y.act? id with
    | some a => pure a
    | none => throw (.badInput "unknown record")
  let timeout : Build Duration := do parsed (duration (← parsed (req step "timeout_ms")))
  match kind with
  | "schedule" | "schedule_locked" =>
    let a ← item
    match ← noOverflow (y.wheel.schedule a (← timeout) now) with
    | .ok (c, a) => pure (.str "ok", { y.setAct a with wheel := c })
    | .error e => pure (collectorErrorJson e, y)
  | "cancel" | "cancel_locked" =>
    let (c, a, done) := y.wheel.cancel (← item)
    pure (.bool done, { y.setAct a with wheel := c })
  | "reschedule" | "reschedule_locked" =>
    let (c, a, done) ← noOverflow (y.wheel.reschedule (← item) (← timeout) now)
    pure (.bool done, { y.setAct a with wheel := c })
  | "scan_stale" =>
    let (c, acts, ids) ← noOverflow (y.wheel.scanStale y.acts now)
    pure (.arr ((ids.mergeSort (· ≤ ·)).map .nat), { y.withActs acts with wheel := c })
  | "scan_all" =>
    let age ← parsed (duration (← parsed (req step "age_ms")))
    let (c, acts, ids) := y.wheel.scanAll y.acts age now
    pure (.arr ((ids.mergeSort (· ≤ ·)).map .nat), { y.withActs acts with wheel := c })
  | _ =>
    let (r, a) ← recordStep (← item) step now
    pure (r, y.setAct a)

/-- The activations by id: a later one with an id replaces an earlier one, and they are
kept in ascending id order. -/
def byId (xs : List Activation) : List Activation :=
  let latest := xs.foldl (fun acc a => acc.filter (·.id != a.id) ++ [a]) []
  latest.mergeSort fun a b => a.id ≤ b.id

def collectorScenario (j : Json) : Build Json := do
  let quantum ← parsed (match opt j "quantum_ms" with
    | some q => duration q
    | none => pure (Duration.ofMillis 10000))
  let specs ← parsed (do list (← req j "items"))
  let acts ← parsed (specs.mapIdxM fun i spec => do
    let idle := ("states", Json.arr [.str "Activating", .str "Inactive"])
    let spec := match spec, opt spec "states" with
      | _, some _ => spec
      | .obj fs, none => Json.ofFields (fs ++ [idle])
      | _, none => Json.ofFields [idle]
    activationOf spec (i + 1) 0)
  let steps ← parsed (do list (← req j "steps"))
  let start : Yard := ⟨Collector.make quantum 0, byId acts⟩
  let run (acc : List Json × Yard × Instant) (step : Json) : Build (List Json × Yard × Instant) := do
    let (out, y, now) := acc
    match ← advanceBy step now with
    | some now => pure (out ++ [answerOf (.str "ok") y], y, now)
    | none =>
      let (r, y) ← wheelStep y step now
      pure (out ++ [answerOf r y], y, now)
  let (answers, _, _) ← steps.foldlM run ([], start, 0)
  pure (.obj [("quantum", start.wheel.quantum.toJson), ("steps", .arr answers)])
where
  answerOf (r : Json) (y : Yard) : Json :=
    .obj [("dbg", .str y.wheel.structural), ("r", r),
      ("tickets", .arr (y.acts.map fun a => .arr [.nat a.id, Json.opt .nat a.ticket]))]

end ActorSilo.Scenario
