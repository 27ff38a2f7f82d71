import ActorSilo.Executor.Drive
import ActorSilo.Request.Callback
import ActorSilo.Json.Duration
import ActorSilo.Scenario.Input
import ActorSilo.Scenario.Output

/-! # Scenarios about one callback

A script makes the callback of request 7 to grain `[1, "target"]` and runs steps on it:
starting its timer, letting the clock run, handing it responses, timing it out by hand,
disposing of it and dropping it. Its resend rule allows a fixed number of resends and
notes when each happened; removing it from its table is counted.

Every step answers its result, the callback's state, the resend times, how often the
callback left its table, and the first reply the caller got, with the time of the step
at which the caller first saw it.
-/

namespace ActorSilo.Scenario

/-- What the caller of the callback has seen of its reply channel. -/
inductive Seen where
  | nothing
  /-- The reply, first seen at the given millisecond. -/
  | reply (m : Message) (at_ : Nat)
  | closed
  deriving Inhabited

/-- The world of a callback scenario. -/
structure Desk where
  callback : Option Callback
  budget : Nat
  resends : List Nat := []
  unregistered : Nat := 0
  /-- The reply in the channel, not yet seen by the caller. -/
  inbox : Option Message := none
  seen : Seen := .nothing
  deriving Inhabited

/-- The one procedure of a callback scenario: a timer round. -/
inductive DeskProc where
  | tick (id : Nat) (due : Instant) (period : Duration)

def deskSite : CallbackSite Desk Unit DeskProc where
  find id d := d.callback.filter (·.id == id)
  store cb d := { d with callback := d.callback.map fun _ => cb }
  resend _ := Async.update fun now d =>
    match d.callback with
    | some cb =>
      if cb.message.resendCount < d.budget then
        let m := { cb.message with resendCount := cb.message.resendCount + 1 }
        ({ d with callback := some { cb with message := m }, resends := d.resends ++ [now / nanosPerMilli] }, true)
      else (d, false)
    | none => (d, false)
  unregister _ := Async.modify fun d => { d with unregistered := d.unregistered + 1 }
  deliver _ m := Async.modify fun d => if d.inbox.isNone then { d with inbox := some m } else d
  tick := DeskProc.tick

def DeskProc.run : DeskProc → Program Desk Unit DeskProc
  | .tick id due period => (deskSite.tickRound id due period).toProgram

def deskFuel : Nat := 100000

def deskRun (x : Executor Desk Unit DeskProc) (code : Async Desk Unit DeskProc Unit) :
    Executor Desk Unit DeskProc :=
  (Executor.start DeskProc.run deskFuel deskFuel x code.toProgram).1

/-- The caller looks at its channel at the end of a step. -/
def Desk.look (d : Desk) (now : Instant) : Desk :=
  match d.seen, d.inbox, d.callback with
  | .nothing, some m, _ => { d with seen := .reply m (now / nanosPerMilli) }
  | .nothing, none, none => { d with seen := .closed }
  | _, _, _ => d

/-- One step of a callback scenario: its result, or a refusal of the script. -/
def deskStep (x : Executor Desk Unit DeskProc) (step : Json) :
    Parse (Json × Executor Desk Unit DeskProc) := do
  let kind ← strOr step "do" ""
  let ok (code : Async Desk Unit DeskProc Unit) : Parse (Json × Executor Desk Unit DeskProc) :=
    pure (.str "ok", deskRun x code)
  match kind with
  | "advance" =>
    let ms ← duration (← req step "ms")
    ok (Async.sleepFor ms)
  | _ =>
    let some cb := x.world.callback | throw "callback dropped"
    match kind with
    | "start_timer" => ok (deskSite.startTimer cb.id)
    | "respond" =>
      let r ← response (← req step "response")
      ok (deskSite.respond cb.id (cb.message.createResponse r))
    | "on_timeout" => ok (deskSite.onTimeout cb.id)
    | "dispose" => ok (deskSite.dispose cb.id)
    | "drop" =>
      ok (do
        deskSite.dispose cb.id
        Async.modify fun d => { d with callback := none })
    | "id" => pure (.nat cb.id, x)
    | "debug" => pure (.str cb.structural, x)
    | other => throw s!"unknown callback step {other}"

/-- The state of a callback scenario after a step. -/
def deskSnapshot (r : Json) (x : Executor Desk Unit DeskProc) : Json :=
  let d := x.world
  let cb := d.callback.map fun cb =>
    Json.obj [("completed", .bool cb.fired), ("elapsed_ms", .nat ((x.clock - cb.started) / nanosPerMilli)),
      ("resend_count", .nat cb.message.resendCount)]
  let reply := match d.seen with
    | .nothing => Json.null
    | .closed => .str "closed"
    | .reply m at_ =>
      .obj [("at_ms", .nat at_), ("resend_count", .nat m.resendCount),
        ("response", Json.opt responseJson m.response), ("result", resultJson (Response.toResult m.response))]
  .obj [("cb", Json.opt id cb), ("r", r), ("reply", reply), ("resends", .arr (d.resends.map .nat)),
    ("unregistered", .nat d.unregistered)]

def callbackScenario (j : Json) : Parse Json := do
  let config ← if ← boolOr j "default_config" false then pure (CallbackConfig.ofMessaging {})
    else
      pure ⟨← durationOr j "timeout_ms" (.ofMillis 300), ← boolOr j "resend_on_timeout" false,
        ← boundedOr j "max_resend_count" 8 0⟩
  let budget ← boundedOr j "resend_budget" 8 config.maxResendCount
  let steps ← list (← req j "steps")
  let request := Message.request 7 ⟨1, "target", .grain⟩ 1 1 []
  let start : Executor Desk Unit DeskProc :=
    { world := { callback := some (Callback.make request config 0), budget } }
  let visit (acc : List Json × Executor Desk Unit DeskProc) (step : Json) :
      Parse (List Json × Executor Desk Unit DeskProc) := do
    let (out, x) := acc
    let (r, x) ← deskStep x step
    let x := { x with world := x.world.look x.clock }
    pure (out ++ [deskSnapshot r x], x)
  let (answers, _) ← steps.foldlM visit ([], start)
  pure (.obj [("steps", .arr answers), ("timer_period", config.timerPeriod.toJson)])

end ActorSilo.Scenario
