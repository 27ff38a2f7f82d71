import ActorSilo.Silo.Host
import ActorSilo.Scenario.Input
import ActorSilo.Text.Utf8

/-! # The test bench

The application a silo scenario runs: a test grain for every grain type, keeping a counter per
activation and a journal of what the hooks saw, beside the script's own bookkeeping. Interface 1
of the grain: 1 adds one and returns the counter, 2 returns it, 3 fails, 4 sleeps its argument in
milliseconds then adds one, 5 relays along a route, 6 keeps the activation alive, 7 asks for
deactivation once idle, 8 panics, 9 sends a route one way, 10 echoes, 11 reports its context.
A type's `Behaviour` says how its grains are made and how their hooks behave.
-/

namespace ActorSilo.Scenario

/-- How the grains of a type are made. -/
inductive Make where
  /-- Test grains, with hooks that note what they see. -/
  | test
  | plain
  | panics
  deriving BEq, Inhabited

/-- How the grains of a type behave in their hooks. -/
structure Behaviour where
  make : Make := .test
  failActivate : Bool := false
  panicActivate : Bool := false
  activateDelay : Duration := .zero
  failDeactivate : Bool := false
  panicDeactivate : Bool := false
  deactivateDelay : Duration := .zero
  deriving Inhabited

/-- How a call started by a script ended. -/
inductive CallEnd where
  | returned (r : Except RequestError (List UInt8))
  | failed

/-- The application beside the silo. -/
structure Bench where
  behaviours : List (Nat × Behaviour) := []
  /-- Counters of grain instances, by record slot. -/
  counters : List (Nat × Int) := []
  journal : List String := []
  /-- Outcomes of calls that finished and were not yet looked at. -/
  finished : List (String × CallEnd) := []
  /-- Names of finished calls whose outcomes a step of the script waited for and took. -/
  taken : List String := []
  /-- Calls not yet looked at, by name, with the number each was started under and the
  task that makes it. A call started under a name already in use takes it over. -/
  calls : List (String × Nat × Nat) := []
  started : Nat := 0
  /-- Records held on to by name, by slot. -/
  held : List (String × Nat) := []
  /-- What the last step of the script answered. -/
  answer : Json := .null
  /-- The grains the script has named so far. -/
  mentioned : List GrainId := []
  deriving Inhabited

namespace Bench

/-- The behaviour of a grain type: the last one given for its code, as a later
registration of a type code replaces an earlier one. -/
def behaviour (b : Bench) (code : Nat) : Behaviour :=
  (((b.behaviours.filter (·.1 == code)).getLast?).map (·.2)).getD {}

def counter (b : Bench) (slot : Nat) : Int := ((b.counters.find? (·.1 == slot)).map (·.2)).getD 0

/-- Sets the counter of the instance in a slot. -/
def setCounter (b : Bench) (slot : Nat) (n : Int) : Bench :=
  { b with counters := (slot, n) :: b.counters.filter (·.1 != slot) }

end Bench

abbrev BenchM (α : Type) := SiloM Bench α

def note (line : String) : BenchM Unit :=
  Async.modify fun w => { w with app := { w.app with journal := w.app.journal ++ [line] } }

def pause (d : Duration) : BenchM Unit := do
  Async.sleepFor d

/-- Adds one to the counter of the instance in a slot: the new count. -/
def increment (slot : Nat) : BenchM (Attempt (List UInt8)) :=
  Async.update fun _ w =>
    let n := w.app.counter slot + 1
    ({ w with app := w.app.setCounter slot n }, .ok (Text.bytesOfInt64 n))

/-- The number an argument holds: its first eight bytes, little-endian, or zero when it
has fewer. -/
def argument (body : List UInt8) : Int :=
  if body.length < 8 then 0 else Text.int64OfBytes (body.take 8)

/-- A number argument as milliseconds; negative numbers count as zero. -/
def millisOf (n : Int) : Duration := Duration.ofMillis n.toNat

/-- The flags a route hop asks for: `r` read-only, `a` always interleave, `s` suppress
keep-alive. -/
def hopFlags (letters : String) : MessageFlags :=
  MessageFlags.ofBits (letters.toList.foldl (fun bits c =>
    if c == 'r' then bits ||| MessageFlags.readOnly
    else if c == 'a' then bits ||| MessageFlags.alwaysInterleave
    else if c == 's' then bits ||| MessageFlags.suppressKeepAlive
    else bits) 0)

/-- One hop of a route, `type:key[:flags]`: the grain and its flags. -/
def routeHop? (hop : String) : Option (GrainId × MessageFlags) :=
  match hop.splitOn ":" with
  | t :: key :: more =>
    match wordText? t with
    | some code => some (⟨code, key, .grain⟩, hopFlags (more.headD ""))
    | none => none
  | _ => none

/-- The hops of a route: its comma-separated parts, empty parts left out. -/
def routeHops (route : String) : List String := (route.splitOn ",").filter (· != "")

/-- The first hop of a route, its flags, and the rest of the route. -/
def splitRoute (route : String) : Option (GrainId × MessageFlags × String) :=
  match routeHops route with
  | [] => none
  | hop :: rest => (routeHop? hop).map fun (g, flags) => (g, flags, ",".intercalate rest)

/-- The grains of the hops of a route, up to the first hop that cannot be read. -/
def routeGrains (route : String) : List GrainId := go (routeHops route)
where
  go : List String → List GrainId
    | [] => []
    | hop :: rest =>
      match routeHop? hop with
      | some (g, _) => g :: go rest
      | none => []

/-- The display text of a stored state: its bytes in hexadecimal and its tag. -/
def stateText : Option StoredState → String
  | some s => Text.hexOfBytes s.data ++ "@" ++ s.etag
  | none => "none"

def testMethod (ctx : GrainContext) (iface method : Nat) (body : List UInt8) :
    BenchM (Attempt (List UInt8)) := do
  let g := ctx.address.grain
  if iface != 1 then return .failed (.unknownMethod iface method)
  match method with
  | 1 => increment ctx.slot
  | 2 => do pure (.ok (Text.bytesOfInt64 ((← Async.get).app.counter ctx.slot)))
  | 3 => pure (.failed (.failed "boom"))
  | 4 =>
    pause (millisOf (argument body))
    increment ctx.slot
  | 5 =>
    match splitRoute (Text.lossyText body) with
    | none => increment ctx.slot
    | some (hop, flags, rest) =>
      match ← ctx.call hop 1 5 rest.toUTF8.toList flags with
      | .ok reply => pure (.ok reply)
      | .error e => pure (.failed (.failed e.message))
  | 6 =>
    ctx.delayDeactivation (millisOf (argument body))
    pure (.ok [])
  | 7 =>
    ctx.deactivateOnIdle
    pure (.ok [])
  | 8 => pure .panicked
  | 9 =>
    match splitRoute (Text.lossyText body) with
    | none => increment ctx.slot
    | some (hop, _, rest) =>
      ctx.sendOneWay hop 1 9 rest.toUTF8.toList
      pure (.ok [])
  | 10 =>
    pure (.ok (body ++ ("|" ++ g.render ++ "|" ++ toString ctx.chain.length).toUTF8.toList))
  | 11 =>
    note ("ctx " ++ g.render ++ " " ++ ctx.address.render ++ " " ++
      activationText ctx.address.activation ++ " " ++ ctx.structural)
    pure (.ok g.render.toUTF8.toList)
  | _ => pure (.failed (.unknownMethod iface method))

instance : Grains Bench where
  create slot a b :=
    if (b.behaviour a.grainType.code).make == .panics then none else some (b.setCounter slot 0)
  onActivate ctx state := do
    let g := ctx.address.grain
    let b := (← Async.get).app.behaviour g.grainType
    if b.make == .plain then return .ok ()
    pause b.activateDelay
    if b.panicActivate then
      note ("activate-panic " ++ g.render)
      return .panicked
    if b.failActivate then
      note ("activate-fail " ++ g.render)
      return .failed (.failed "refusing to activate")
    note ("activate " ++ g.render ++ " state=" ++ stateText state)
    return .ok ()
  onDeactivate ctx reason := do
    let g := ctx.address.grain
    let b := (← Async.get).app.behaviour g.grainType
    if b.make == .plain then return .ok ()
    pause b.deactivateDelay
    note ("deactivate " ++ g.render ++ " " ++ reason.name)
    if b.panicDeactivate then return .panicked
    if b.failDeactivate then return .failed (.failed "refusing to deactivate")
    return .ok ()
  invoke := testMethod

end ActorSilo.Scenario
