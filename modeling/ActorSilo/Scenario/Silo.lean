import ActorSilo.Scenario.Bench
import ActorSilo.Scenario.Message
import ActorSilo.Scenario.Config
import ActorSilo.Scenario.Grain
import ActorSilo.Config.Codec
import ActorSilo.Json.Duration

/-! # Scenarios about a whole silo

A script starts a silo with the test bench's grains and runs steps on it: calls, messages,
letting time pass, collections, membership changes and looks at records. Every step runs as the
main program and then settles, unless it says `nosettle`; it answers its result and a snapshot of
the silo, with the random activation and correlation ids masked.
-/

namespace ActorSilo.Scenario

/-- A silo with the test bench, on its thread. -/
abbrev Site := Executor (World Bench) Event Proc

def siteSteps : Nat := 1000000

def siteRounds : Nat := 10000000

/-- Lets everything runnable at this instant run: the main program yields many times. -/
def settle : BenchM Unit := go 2000
where
  go : Nat → BenchM Unit
    | 0 => pure ()
    | n + 1 => do
      Async.yieldNow
      go n

/-- Runs code as the main program; its answer is kept by the bench. -/
def Site.run (x : Site) (code : BenchM Json) : Site × Outcome :=
  let program := code fun j => .act (fun w => { w with app := { w.app with answer := j } }) .done
  Executor.start Proc.run siteSteps siteRounds x program

/-- Runs code as the main program; a panic of the main program stops the script. -/
def Site.step (x : Site) (code : BenchM Json) : Build Site :=
  match x.run code with
  | (_, .failed why) => throw (.halted why)
  | (x, _) => pure x

/-- Six hours: how long the script waits for calls at most. -/
def patience : Duration := .ofSecs (6 * 3600)

/-! ## Reading the script -/

/-- The behaviour of a grain type described by the script. -/
def behaviourOf (j : Json) : Parse Behaviour := do
  let make ← match ← strOr j "kind" "test" with
    | "test" => pure Make.test
    | "plain" => pure .plain
    | "panic_factory" => pure .panics
    | other => throw s!"unknown grain kind {other}"
  pure {
    make
    failActivate := ← boolOr j "fail_activate" false
    panicActivate := ← boolOr j "panic_activate" false
    activateDelay := ← durationOr j "activate_delay_ms" .zero
    failDeactivate := ← boolOr j "fail_deactivate" false
    panicDeactivate := ← boolOr j "panic_deactivate" false
    deactivateDelay := ← durationOr j "deactivate_delay_ms" .zero }

/-- A storage provider described by the script: its name and store. -/
def providerOf (j : Json) : Parse (String × Provider) := do
  let name ← str (← req j "name")
  let seeds ← match opt j "seed" with
    | some l => list l
    | none => pure []
  let store ← seeds.foldlM (fun (s : Store) seed => do
      let typeName ← str (← req seed "type_name")
      let g ← grain (← req seed "grain")
      let data ← bytes (← req seed "data")
      match s.write typeName g data none with
      | .ok (s, _) => pure s
      | .error e => throw e.message) {}
  let outage := if ← boolOr j "fail" false then some "disk on fire" else none
  pure (name, { store, latency := ← durationOr j "delay_ms" .zero, outage })

/-- A list member of the script, empty when absent. -/
def listOr (j : Json) (k : String) : Parse (List Json) :=
  match opt j k with
  | some l => list l
  | none => pure []

/-- The grain types of the script, with their behaviours. -/
def typesOf (j : Json) : Parse (List (GrainType × Behaviour)) := do
  match opt j "types" with
  | some l => (← list l).mapM fun t => do pure (← grainTypeOf t, ← behaviourOf t)
  | none => pure [({ code := 1, name := "Counter" }, {})]

def refusalsOf (ops : List String) : Refusals := { ops, timeout := ops.contains "timeout" }

/-- The activation a script means: a number, or `{"of": grain, "index"?}` for the id of a
local activation of a grain (999999, which never exists, when there is none). -/
def activationRef (w : World Bench) (j : Json) : Parse Nat := do
  match opt j "of" with
  | some g =>
    let g ← grain g
    let index ← natOr j "index" 0
    pure ((((w.targetsOf g)[index]?).bind w.record?).map (·.id) |>.getD 999999)
  | none => nat j

/-- An argument: a number as eight bytes, text as UTF-8, or bytes. -/
def argumentOf (j : Json) : Parse (List UInt8) :=
  match j with
  | .nat _ | .neg _ | .float _ => do pure (Text.bytesOfInt64 (← int64 j))
  | .str s => pure s.toUTF8.toList
  | other => bytes other

/-- The interface and method of a step, each 1 when absent and below `2^32`. -/
def methodOf (step : Json) : Parse (Nat × Nat) := do
  let iface ← natOr step "iface" 1
  let method ← natOr step "method" 1
  if Nat.pow 2 32 ≤ iface then throw "iface out of u32 range"
  if Nat.pow 2 32 ≤ method then throw "method out of u32 range"
  pure (iface, method)

/-- The argument member of a step, empty when absent. -/
def argOf (step : Json) : Parse (List UInt8) :=
  match opt step "arg" with
  | some a => argumentOf a
  | none => pure []

/-! ## Looking at the silo -/

/-- What follows the first occurrence of `pattern` in a text, if it occurs. -/
def afterFirst (pattern : List Char) : List Char → Option (List Char)
  | [] => if pattern.isEmpty then some [] else none
  | c :: cs =>
    if pattern.isPrefixOf (c :: cs) then some ((c :: cs).drop pattern.length)
    else afterFirst pattern cs

/-- The collection ticket a diagnostic text of an activation shows: on its first line,
the text after the first ` Ticket=` (with its space) up to the next space, read as a
word. The grain's key
and the type's name are part of that text, so they can hide the ticket or show another
one. -/
def shownTicket (text : String) : Option Nat :=
  let line := text.toList.takeWhile (· != '\n')
  let line := if line.getLast? == some '\r' then line.dropLast else line
  match afterFirst " Ticket=".toList line with
  | some rest => wordText? (String.ofList (rest.takeWhile (· != ' ')))
  | none => none

example : shownTicket "[S grain/0x00000001/k Ticket=5 act-1] #N State=Inactive Ticket=120" = some 5 := by
  decide +kernel
example : shownTicket "[S grain/0x00000001/a\nb act-1] #N State=Inactive Ticket=120" = none := by
  decide +kernel
example : shownTicket "[S grain/0x00000001/Ticket=4 act-1] #N State=Inactive Ticket=120" = some 120 := by
  decide +kernel

/-- A local activation: grain, state, mailbox and running turns, the collection ticket
its diagnostic text shows, remaining keep-alive in milliseconds (at most `2^64 - 1`),
and whether it shuts down or forwards. -/
def activationLine (now : Instant) (a : Activation) : String :=
  a.grain.render ++ " " ++ a.state.name ++ " w=" ++ toString a.waitingCount ++ " r=" ++
    toString a.runningCount ++
    (match shownTicket (a.detailed now) with
     | some t => " ticket=" ++ toString t
     | none => "") ++
    (match a.keepAliveUntil with
     | some u => " ka=" ++ toString (u.since now).millisCapped
     | none => "") ++
    (if a.shuttingDown then " down" else "") ++ (if a.forwardTo.isSome then " fwd" else "")

def grainOrder (a b : GrainId) : Bool := a.cmp b != .gt

/-- The local activations of the grains the script has named, by grain, and for each
grain in the registry's order. -/
def activationLines (w : World Bench) (now : Instant) : List String :=
  let grains := w.app.mentioned.mergeSort grainOrder
  (grains.flatMap fun g => (w.targetsOf g).filterMap w.record?).map (activationLine now)

/-- The grains a step names: the `grain` of a call, of a one-way message, of a
`get_or_create`, of a `system` step and of a `hold`; the hops of a route given as a
JSON text `arg` of a call or one-way message, up to the first hop that cannot be read;
the `grains` of a `delete` and the grains of the `acts` of a `delete_acts`; and the
target of the `msg` that the silo receives or sends. A member that cannot be read names
nothing. -/
def mentionsOf (step : Json) : List GrainId :=
  let one (j : Option Json) : List GrainId := match j.map grain with
    | some (.ok g) => [g]
    | _ => []
  let route := match opt step "arg" with
    | some (.str r) => routeGrains r
    | _ => []
  match opt step "do" with
  | some (.str "call") | some (.str "one_way") => one (opt step "grain") ++ route
  | some (.str "get_or_create") | some (.str "system") | some (.str "hold") => one (opt step "grain")
  | some (.str "delete") =>
    match opt step "grains" with
    | some (.arr gs) => gs.flatMap fun g => one (some g)
    | _ => []
  | some (.str "delete_acts") =>
    match opt step "acts" with
    | some (.arr xs) => xs.flatMap fun x => one (opt x "grain")
    | _ => []
  | some (.str "receive") | some (.str "send") =>
    match opt step "msg" with
    | some m => one (opt m "target")
    | none => []
  | _ => []

/-- Notes grains as named by the script, each once. -/
def Site.mention (x : Site) (gs : List GrainId) : Site :=
  let w := x.world
  let named := gs.foldl (fun acc g => if acc.contains g then acc else acc ++ [g]) w.app.mentioned
  { x with world := { w with app := { w.app with mentioned := named } } }

def textOrder (a b : String) : Bool := compare a b != .gt

/-- The texts of the grains whose cache entries were ever marked stale, each once, in
text order. -/
def invalidatedGrains (d : Directory) : List String :=
  let gs := (d.invalidations.map GrainId.render).foldl
    (fun acc g => if acc.contains g then acc else acc ++ [g]) []
  gs.mergeSort textOrder

/-- Hides activation and correlation ids in every text of an answer. -/
def maskJson : Json → Json
  | .str s => .str (masked s)
  | .arr items => .arr (maskItems items)
  | .obj fields => .obj (maskFields fields)
  | other => other
where
  maskItems : List Json → List Json
    | [] => []
    | j :: rest => maskJson j :: maskItems rest
  maskFields : List (String × Json) → List (String × Json)
    | [] => []
    | (k, j) :: rest => (k, maskJson j) :: maskFields rest

/-- How a call ended: its result, or `{"join_error": true}` when its task failed. -/
def callEndJson : CallEnd → Json
  | .returned r => resultJson r
  | .failed => .obj [("join_error", .bool true)]

/-- The answer of a step and the silo after it; the notes, finished calls and messages
to other silos are taken, so the next step shows only its own. The outcomes of calls
the step waited for are shown as they are. Taking the outcome of any other finished
call spends a unit of the main program's budget; such calls beyond the budget, in name
order, are shown as `"unfinished"` and their outcomes are lost. -/
def snapshot (x : Site) (r : Json) (reported : Nat) : Site × Nat × Json :=
  let w := x.world
  let b := w.app
  let sent := w.outbound.getD []
  let finished := b.finished.mergeSort fun a c => a.1 ≤ c.1
  let (waited, looked) := finished.partition fun (id, _) => b.taken.contains id
  let room := Executor.coopBudget - x.mainSpent
  let done := waited.map (fun (id, res) => (id, callEndJson res)) ++
    looked.zipIdx.map fun ((id, res), i) =>
      (id, if i < room then callEndJson res else .str "unfinished")
  let answer := Json.obj [
    ("r", r), ("t", .nat (x.clock / nanosPerMilli)),
    ("acts", .arr ((activationLines w x.clock).map .str)),
    ("count", .nat w.registry.count), ("collector", .nat w.collector.count),
    ("pending", .nat w.callbacks.length), ("dir", .nat w.directory.entryCount),
    ("events", .arr ((b.journal.mergeSort textOrder).map .str)),
    ("done", .obj done),
    ("remote", .arr ((sent.drop reported).map messageJson)),
    ("invalidated", .arr ((invalidatedGrains w.directory).map .str)),
    ("status", .str w.status.name)]
  let names := finished.map (·.1)
  let b := { b with
    journal := [], finished := [], taken := []
    calls := b.calls.filter fun (id, _) => !names.contains id }
  ({ x with world := { w with app := b }, mainSpent := x.mainSpent + min room looked.length },
    sent.length, answer)

/-! ## Steps -/

/-- The outcome of the call started as number `serial`, kept for the next look unless a
later call took over its name. -/
def finish (id : String) (serial : Nat) (r : CallEnd) : BenchM Unit :=
  Async.modify fun w =>
    if w.app.calls.any fun (name, n, _) => name == id && n == serial then
      { w with app := { w.app with finished := w.app.finished ++ [(id, r)] } }
    else w

/-- Starts a call in a task of its own; it takes over the name from an earlier call. -/
def startCall (id : String) (m : Message) : BenchM Json := do
  let serial := (← Async.get).app.started
  let task ← Async.spawn do
    match ← Async.catchPanic (SiloM.sendRequest m) with
    | some r => finish id serial (.returned r)
    | none => finish id serial .failed
  Async.modify fun w =>
    let calls := w.app.calls.filter (·.1 != id) ++ [(id, serial, task)]
    { w with app := { w.app with started := serial + 1, calls } }
  pure (.str "spawned")

/-- Takes the outcomes of the named calls that have finished. -/
def takeOutcomes (names : List String) : BenchM Unit :=
  Async.modify fun w =>
    let now := w.app.finished.filterMap fun (id, _) => if names.contains id then some id else none
    { w with app := { w.app with taken := w.app.taken ++ now } }

/-- Waits for calls until a deadline, and takes the outcomes of those that finished. -/
def awaitCalls (calls : List (String × Nat × Nat)) (deadline : Instant) : BenchM Unit := do
  calls.forM fun (_, _, task) => do
    let _ ← Async.joinTaskUntil task deadline
  takeOutcomes (calls.map (·.1))

/-- The slot of the `index`-th local activation of a grain. -/
def localSlot (w : World Bench) (g : GrainId) (index : Nat) : Option Nat := (w.targetsOf g)[index]?

def siloErrorJson (e : SiloError) : Json := failureJson e.kind e.message

def statsJson (w : World Bench) : Json :=
  let counts := w.registry.typeCounts
  .obj [("stats", .arr (counts.map fun (n, c) => .arr [.str n, .str w.localSilo.render, .nat c])),
    ("simple", .arr (counts.map fun (n, c) => .arr [.str n, .nat c]))]

def reportJson (w : World Bench) (g : GrainId) (now : Instant) : Json :=
  let typeName := (w.types.get? g.grainType).map (·.name)
  let primary := w.directory.primary? g
  let cached := (w.directory.lookup? g).getD []
  let local_ := (w.targetsOf g).filterMap w.record?
  let details := local_.map (·.detailed now)
  let text := g.render ++ " on " ++ w.localSilo.render ++ "\n" ++
    "   type: " ++ typeName.getD "<unknown>" ++ "\n" ++
    "   directory partition owner: " ++ ((primary.map SiloAddress.render).getD "<none>") ++ "\n" ++
    String.join (cached.map fun a => "   cached: " ++ a.render ++ "\n") ++
    String.join (details.map fun d => "   " ++ d ++ "\n")
  .obj [("grain_type", textOr typeName), ("primary", textOr (primary.map SiloAddress.render)),
    ("cache", .arr (cached.map fun a => .str a.render)),
    ("local", .arr (local_.map fun a => .str a.address.render)),
    ("details", .arr (details.map .str)), ("text", .str text)]

/-- `Catalog { local_silo: …, activations: n, .. }`. -/
def catalogText (w : World Bench) : String :=
  "Catalog \x7b local_silo: " ++ w.localSilo.structural ++ ", activations: " ++
    toString w.registry.count ++ ", .. \x7d"

def infoJson (w : World Bench) (g : Option GrainId) (services : Bool) : Json :=
  let silo := w.localSilo.structural
  .obj [("silo", .str ("Silo \x7b address: " ++ silo ++ ", catalog: " ++ catalogText w ++ ", .. \x7d")),
    ("catalog", .str (catalogText w)),
    ("client", .str ("RuntimeClient \x7b local_silo: " ++ silo ++ ", pending: " ++
      toString w.callbacks.length ++ " \x7d")),
    ("client_id", .str w.clientId.render),
    ("membership", .str w.membership.structural),
    ("collector", .str w.collector.structural),
    ("config", w.config.toJson), ("messaging", w.config.messaging.toJson),
    ("dispatcher", .str ("Dispatcher \x7b local_silo: " ++ silo)),
    ("in_flight", if services then .nat w.inFlight else .null),
    ("primary", Json.opt (fun s => .str s.render) (g.bind w.directory.primary?))]

def heldJson (w : World Bench) (a : Activation) (now : Instant) : Json :=
  .obj [("detail", .str (a.detailed now)), ("debug", .str a.structural), ("state", .str a.state.name),
    ("in_catalog", .bool (w.findTarget? a.id).isSome)]

/-- The message a step describes, read on the silo as it is; a target activation without
a silo is on `home`. -/
def stepMessage (x : Site) (j : Json) (target : Option GrainId) (home : Option SiloAddress) (id : Nat) :
    Build Message :=
  messageWith { act := activationRef x.world, target, home, id } j x.clock

/-- What a step does, as code for the main program, and whether the silo settles after. -/
def stepCode (x : Site) (services refusable : Bool) (index : Nat) (step : Json) :
    Build (BenchM Json × Bool) := do
  let w := x.world
  let kind ← parsed (strOr step "do" "")
  let settles := !((kind == "call" || kind == "get_or_create") && (← parsed (boolOr step "nosettle" false)))
  let ok (code : BenchM Unit) : Build (BenchM Json × Bool) := pure (do code; pure (.str "ok"), settles)
  let answer (code : BenchM Json) : Build (BenchM Json × Bool) := pure (code, settles)
  let look (code : BenchM Json) : Build (BenchM Json × Bool) := pure (code, false)
  match kind with
  | "call" =>
    let id ← parsed (str (← parsed (req step "id")))
    let g ← parsed (grain (← parsed (req step "grain")))
    let (iface, method) ← parsed (methodOf step)
    let body ← parsed (argOf step)
    let flags ← parsed (flagsOr step "flags")
    let expiry ← match opt step "ttl_ms" with
      | some t =>
        match x.clock.add? (← parsed (duration t)) with
        | some e => pure (some e)
        | none => throw (.halted ClockOverflow.message)
      | none => pure none
    let chain ← parsed (match opt step "chain" with
      | some c => do (← list c).mapM (chainEntryWith (activationRef w))
      | none => pure [])
    let placement ← parsed (match opt step "placement" with
      | some p => some <$> strategy p
      | none => pure none)
    answer do
      let mid ← SiloM.freshId
      startCall id { Message.request mid g iface method body with
        flags, callChain := chain, placement, expiresAt := expiry }
  | "one_way" =>
    let g ← parsed (grain (← parsed (req step "grain")))
    let (iface, method) ← parsed (methodOf step)
    let body ← parsed (argOf step)
    let flags ← parsed (flagsOr step "flags")
    ok (SiloM.oneWay g iface method body flags)
  | "await" =>
    let id ← parsed (str (← parsed (req step "id")))
    match w.app.calls.find? (·.1 == id) with
    | none => look (pure (.str "not pending"))
    | some (_, _, task) =>
      answer do
        let finished ← Async.joinTaskUntil task ((← Async.now) + patience.toNanos)
        takeOutcomes [id]
        pure (.str (if finished then "finished" else "still pending"))
  | "await_all" =>
    ok do
      let deadline := (← Async.now) + patience.toNanos
      awaitCalls (← Async.get).app.calls deadline
  | "advance" =>
    let ms ← parsed (duration (← parsed (req step "ms")))
    ok (Async.sleepFor ms)
  | "settle" => ok (pure ())
  | "stop" =>
    answer do
      match ← SiloM.stop with
      | .ok () => pure (.str "ok")
      | .error e => pure (siloErrorJson e)
  | "collect" =>
    let age ← parsed (duration (← parsed (req step "age_ms")))
    answer do pure (.nat (← SiloM.collectActivations age))
  | "collect_stale" => answer do pure (.nat (← SiloM.collectStale))
  | "delete" =>
    let items ← parsed (list (← parsed (req step "grains")))
    let gs ← parsed (items.mapM grain)
    ok (SiloM.deleteGrains gs)
  | "delete_acts" =>
    let items ← parsed (list (← parsed (req step "acts")))
    let acts ← parsed (items.mapM fun a => do
      let g ← grain (← req a "grain")
      pure (⟨w.localSilo, g, ← activationRef w (← req a "act")⟩ : ActivationAddress))
    ok (SiloM.deleteActivations acts)
  | "status" =>
    let s ← parsed (silo (← parsed (req step "silo")))
    let st ← parsed (siloStatus (← parsed (str (← parsed (req step "status")))))
    ok (SiloM.updateStatus s st true)
  | "system" =>
    let g ← parsed (grain (← parsed (req step "grain")))
    answer do
      let id ← SiloM.freshId
      let local_ := (← Async.get).localSilo
      match ← SiloM.getOrCreate ⟨local_, g, id⟩ (some (.explicit local_)) with
      | .error e => pure (siloErrorJson (.catalog e))
      | .ok (slot, init) =>
        let failure ← match init with
          | none => pure none
          | some task =>
            Async.joinTask task
            match (← Async.get).inits.find? (·.1 == slot) with
            | none => pure (some CatalogError.notRunning)
            | some (_, .error e) => pure (some (.activation e))
            | some (_, .ok ()) => pure none
        match failure with
        | some e => pure (siloErrorJson (.catalog e))
        | none =>
          let some a ← SiloM.record? slot | pure .null
          pure (.obj [("state", .str a.state.name), ("exempt", .bool a.isExempt)])
  | "stats" => look do pure (statsJson (← Async.get))
  | "report" =>
    let g ← parsed (grain (← parsed (req step "grain")))
    look do pure (reportJson (← Async.get) g (← Async.now))
  | "lookup" =>
    let g ← parsed (grain (← parsed (req step "grain")))
    look do
      let w ← Async.get
      match w.refusals.check "full_lookup" with
      | .error e => pure (siloErrorJson (.directory e))
      | .ok () => pure (.arr ((w.directory.fullLookup g).map fun a => .str a.render))
  | "keep_alive" =>
    let g ← parsed (grain (← parsed (req step "grain")))
    let ms ← parsed (duration (← parsed (req step "ms")))
    match localSlot w g 0 with
    | none => look (pure (.str "no activation"))
    | some slot => look do
      SiloM.delayDeactivation slot ms
      pure (.str "ok")
  | "deactivate_on_idle" =>
    let g ← parsed (grain (← parsed (req step "grain")))
    match localSlot w g 0 with
    | none => look (pure (.str "no activation"))
    | some slot => ok (SiloM.deactivateOnIdle slot)
  | "get_or_create" =>
    let g ← parsed (grain (← parsed (req step "grain")))
    let act ← parsed (activationRef w (← parsed (req step "act")))
    let placement ← parsed (match opt step "placement" with
      | some p => some <$> strategy p
      | none => pure none)
    answer do
      match ← SiloM.getOrCreate ⟨w.localSilo, g, act⟩ placement with
      | .error e => pure (failureJson ("CatalogError::" ++ e.name) e.message)
      | .ok (slot, init) =>
        let some a ← SiloM.record? slot | pure .null
        pure (.obj [("created", .bool init.isSome), ("state", .str a.state.name)])
  | "receive" =>
    let m ← stepMessage x (← parsed (req step "msg")) none (some w.localSilo) (1000000 + index)
    let delay ← parsed (durationOr step "delay_ms" .zero)
    ok do
      if !delay.isZero then Async.sleepFor delay
      SiloM.receiveMessage m
  | "send" =>
    let m ← stepMessage x (← parsed (req step "msg")) none (some w.localSilo) (1000000 + index)
    ok (SiloM.sendMessage m)
  | "reply_remote" =>
    let i ← parsed (nat (← parsed (req step "index")))
    match (w.outbound.getD [])[i]? with
    | none => look (pure (.str "no remote message"))
    | some m =>
      let r ← parsed (responseWith (activationRef w) (← parsed (req step "response")))
      ok (SiloM.receiveMessage (m.createResponse r))
  | "deliver_remote" =>
    let i ← parsed (nat (← parsed (req step "index")))
    match (w.outbound.getD [])[i]? with
    | none => look (pure (.str "no remote message"))
    | some m => ok (SiloM.receiveMessage m)
  | "invalidations" =>
    look (pure (.arr (w.directory.invalidations.map fun g => .str g.render)))
  | "dir_fail" =>
    if !refusable then throw (.badInput "dir_fail needs the dir_fail option")
    let items ← parsed (list (← parsed (req step "ops")))
    let ops ← parsed (items.mapM str)
    look do
      Async.modify fun w => { w with refusals := refusalsOf ops }
      pure (.str "ok")
  | "info" =>
    let g ← parsed (match opt step "grain" with
      | some g => some <$> grain g
      | none => pure none)
    look do pure (infoJson (← Async.get) g services)
  | "hold" =>
    let name ← parsed (str (← parsed (req step "name")))
    let g ← parsed (grain (← parsed (req step "grain")))
    let index ← parsed (natOr step "index" 0)
    match localSlot w g index with
    | none => look (pure (.str "no activation"))
    | some slot =>
      look do
        Async.modify fun w => { w with app := { w.app with held := (name, slot) :: w.app.held } }
        let found := ((← Async.get).record? slot).any fun a => (w.findTarget? a.id).isSome
        pure (.obj [("held", .bool found)])
  | "orphan" =>
    let name ← parsed (str (← parsed (req step "name")))
    let g ← parsed (grain (← parsed (req step "grain")))
    let act ← parsed (natOr step "act" 424242)
    let age ← parsed (durationOr step "age_limit_ms" (.ofMillis 60000))
    look do
      let t : GrainType := { code := g.grainType, name := "Orphan" }
      let a := Activation.make ⟨w.localSilo, g, act⟩ t ⟨"Orphan", 0, 0⟩ age x.clock
      let a := ((a.setState .activating).1.setState .inactive).1
      Async.modify fun w =>
        let (w, slot) := w.addRecord a
        { w with app := { w.app with held := (name, slot) :: w.app.held } }
      pure (.str "ok")
  | "held" =>
    let name ← parsed (str (← parsed (req step "name")))
    let some (_, slot) := w.app.held.find? (·.1 == name)
      | throw (.badInput s!"nothing held as {name}")
    let some a := w.record? slot | throw (.badInput s!"nothing held as {name}")
    let before := heldJson w a x.clock
    match opt step "msg" with
    | none => look (pure before)
    | some spec =>
      let m ← stepMessage x spec (some ⟨a.grain.grainType, a.grain.key, .grain⟩) none (1000000 + index)
      answer do
        SiloM.receiveRequest m slot
        pure before
  | "activated" =>
    let name ← parsed (str (← parsed (req step "name")))
    let some (_, slot) := w.app.held.find? (·.1 == name)
      | throw (.badInput s!"nothing held as {name}")
    answer do
      SiloM.onActivateDeactivateCompleted slot
      settle
      let some a ← SiloM.record? slot | pure .null
      pure (.str a.state.name)
  | "force_state" =>
    let g ← parsed (grain (← parsed (req step "grain")))
    let wanted ← parsed (activationState (← parsed (str (← parsed (req step "to")))))
    match localSlot w g 0 with
    | none => look (pure (.str "no activation"))
    | some slot => look do
      let moved ← SiloM.withRecord slot false fun _ a => a.setState wanted
      pure (.bool moved)
  | other => throw (.badInput s!"unknown silo step {other}")

/-- Runs the steps of a script in turn: their answers. -/
def runSteps (services refusable : Bool) : List Json → Nat → Site → Nat → Build (List Json × Site)
  | [], _, x, _ => pure ([], x)
  | step :: rest, index, x, reported => do
    let x := x.mention (mentionsOf step)
    let (code, settles) ← stepCode x services refusable index step
    let x ← x.step (if settles then do let r ← code; settle; pure r else code)
    let (x, reported, answer) := snapshot x x.world.app.answer reported
    let (answers, x) ← runSteps services refusable rest (index + 1) x reported
    pure (answer :: answers, x)

/-- The silo a script describes, started; or the answer that it could not start. The
script is read in the order the silo is put together: its address (a silo outside a
runtime then cannot start, whatever else the script says), the membership view and the
directory it shares, its configuration, then its grain types, stores and transport. A
configuration document is read first, and a failure to read it is answered with the ids
in its text shown; builder calls are read next. The document is the configuration when
there is one; otherwise the builder calls make it from the defaults. -/
def siteOf (j : Json) : Build (Except Json Site) := do
  let local_ ← parsed (match opt j "silo" with
    | some s => silo s
    | none => pure (SiloAddress.localhost 11111 1))
  if ← parsed (boolOr j "outside_runtime" false) then
    return .error (siloErrorJson .noRuntime)
  let statuses ← parsed ((← parsed (listOr j "membership")).mapM fun e => do
    match e with
    | .arr [s, st] => pure (← silo s, ← siloStatus (← str st))
    | _ => throw "a membership entry is [silo, status]")
  let membership := statuses.foldl (fun m (s, st) => (m.update s st).1) (Membership.make local_)
  let owners ← parsed (match opt j "owners" with
    | some l => do (← list l).mapM silo
    | none => pure [local_])
  let seeds ← parsed ((← parsed (listOr j "dir_seed")).mapM address)
  let directory := seeds.foldl (fun d a => (d.registerSingle a).1) { owners }
  let refusals ← parsed (match opt j "dir_fail" with
    | some l => do pure (refusalsOf (← (← list l).mapM str))
    | none => pure {})
  let document ← match opt j "config" with
    | some doc =>
      match SiloConfig.parse (documentText doc) with
      | .ok c => pure (some c)
      | .error e => return .error (plainFailureJson (SiloError.config e).kind (SiloError.config e).message)
    | none => pure none
  let built ← match opt j "config_builder" with
    | some calls => pure (SiloConfig.build (← parsed ((← parsed (list calls)).mapM setting)))
    | none => pure {}
  let config := document.getD built
  let types ← parsed (typesOf j)
  let providers ← parsed ((← parsed (listOr j "storage")).mapM providerOf)
  let providers := providers.foldl (fun acc (name, p) => Store.register acc name p) []
  let remote ← parsed (boolOr j "remote" true)
  let world : World Bench := {
    localSilo := local_, config, types := .ofList (types.map (·.1)), membership, directory
    refusals, providers, collector := Collector.make config.collection.quantum 0
    faults := .ofSeed (UInt64.ofNat (config.messaging.faultInjectionSeed.getD 0))
    app := { behaviours := types.map fun (t, b) => (t.code, b) }
    outbound := if remote then some [] else none }
  let x : Site := { world }
  pure (.ok (← x.step do SiloM.start; pure .null))

def siloScenario (j : Json) : Build Json := do
  match ← siteOf j with
  | .error answer => pure answer
  | .ok x =>
    let steps ← parsed (do list (← req j "steps"))
    let services ← parsed (boolOr j "services" false)
    let refusable := (opt j "dir_fail").isSome
    let (answers, x) ← runSteps services refusable steps 0 x 0
    let after ← match opt j "after_status" with
      | none => pure []
      | some a =>
        let s ← parsed (silo (← parsed (req a "silo")))
        let st ← parsed (siloStatus (← parsed (str (← parsed (req a "status")))))
        let x ← x.step do
          SiloM.updateStatus s st false
          pure .null
        pure [("after", Json.obj [("count", .nat x.world.registry.count),
          ("status", .str x.world.status.name)])]
    pure (maskJson (Json.ofFields ([("steps", Json.arr answers)] ++ after)))

end ActorSilo.Scenario
