import ActorSilo.Lifecycle
import ActorSilo.Config.Basic
import ActorSilo.Grain.Type
import ActorSilo.Error

/-! # Activation records

Everything a silo tracks about one activation: lifecycle state, mailbox, running turns, idleness,
keep-alive, wheel ticket, forward address, idle actions and shutdown. A turn may start beside the
running ones when the type is reentrant, the new turn always interleaves, or every running turn
that does not is read-only and so is the new one; when the first turn ends, the oldest
interleaved one takes its place. A request counts against the overload limit while it waits,
runs, or is being dispatched.
-/

namespace ActorSilo

/-- A keep-alive that would not fit on the clock lasts a hundred years instead. -/
def keepAliveForever : Duration := .ofSecs (100 * 365 * 24 * 60 * 60)

structure Turn where
  id : Nat
  readOnly : Bool
  alwaysInterleave : Bool
  /-- Finishing the turn does not count as activity. -/
  suppressKeepAlive : Bool
  started : Instant
  deriving BEq, Repr, Inhabited

/-- The turn of a message started at `now`. -/
def Turn.ofMessage (m : Message) (now : Instant) : Turn :=
  ⟨m.id, m.isReadOnly, m.isAlwaysInterleave, m.flags.has MessageFlags.suppressKeepAlive, now⟩

/-- Something to do once an activation is next idle. -/
inductive IdleAction where
  | destroy
  /-- A named marker; running it only records its name. -/
  | mark (tag : String)
  deriving BEq, Repr, Inhabited

structure Activation where
  address : ActivationAddress
  grainType : GrainType
  limit : LimitValue
  created : Instant
  ageLimit : Duration
  state : ActivationState := .create
  hasGrain : Bool := false
  mailbox : List Message := []
  running : Option Turn := none
  interleaved : List Turn := []
  becameIdle : Instant
  keepAliveUntil : Option Instant := none
  ticket : Option Nat := none
  /-- The ticket was claimed by a cancellation or a scan. -/
  cancelled : Bool := false
  forwardTo : Option ActivationAddress := none
  onIdle : List IdleAction := []
  shuttingDown : Bool := false
  reason : Option DeactivationReason := none
  /-- Requests the dispatcher is handing to the activation right now. -/
  dispatching : Nat := 0
  deactivated : Bool := false
  deriving Inhabited

namespace Activation

/-- A new activation in state `create`, made at `now`. -/
def make (address : ActivationAddress) (grainType : GrainType) (limit : LimitValue)
    (ageLimit : Duration) (now : Instant) : Activation :=
  { address, grainType, limit, ageLimit, created := now, becameIdle := now }

def id (a : Activation) : Nat := a.address.activation

def grain (a : Activation) : GrainId := a.address.grain

def isExempt (a : Activation) : Bool := a.address.grain.isSystem

/-- Moves to `next` when that is a legal move; tells whether it moved. -/
def setState (a : Activation) (next : ActivationState) : Activation × Bool :=
  if a.state.canMoveTo next then ({ a with state := next }, true) else (a, false)

/-- Appends a message to the mailbox; an invalid activation refuses it. -/
def enqueue (a : Activation) (m : Message) : Except EnqueueError Activation :=
  if a.state.isTerminal then .error (.invalid m.targetGrain.render)
  else .ok { a with mailbox := a.mailbox ++ [m] }

def peek? (a : Activation) : Option Message := a.mailbox.head?

def dequeue (a : Activation) : Option Message × Activation :=
  match a.mailbox with
  | [] => (none, a)
  | m :: rest => (some m, { a with mailbox := rest })

def waitingCount (a : Activation) : Nat := a.mailbox.length

def runningCount (a : Activation) : Nat := (if a.running.isSome then 1 else 0) + a.interleaved.length

def turns (a : Activation) : List Turn := a.running.toList ++ a.interleaved

/-- True when `m` may start beside the running turns. -/
def mayInterleave (a : Activation) (m : Message) (reentrant : Bool) : Bool :=
  reentrant || m.isAlwaysInterleave ||
    (a.turns.filter (!·.alwaysInterleave)).all fun t => t.readOnly && m.isReadOnly

/-- True when `m` may start now: the activation is usable and nothing runs or `m` may
interleave. -/
def mayAccept (a : Activation) (m : Message) (reentrant : Bool) : Bool :=
  a.state.isUsable && (a.running.isNone || a.mayInterleave m reentrant)

/-- Starts the turn of `m` at `now`. -/
def recordRunning (a : Activation) (m : Message) (now : Instant) : Activation :=
  let t := Turn.ofMessage m now
  if a.running.isNone then { a with running := some t }
  else { a with interleaved := a.interleaved ++ [t] }

/-- Finishes the turn of request `id` at `now`: the finished turn, if it was running. -/
def resetRunning (a : Activation) (id : Nat) (now : Instant) : Option Turn × Activation :=
  let (finished, a) :=
    match a.running with
    | some t =>
      if t.id == id then
        match a.interleaved with
        | [] => (some t, { a with running := none })
        | next :: rest => (some t, { a with running := some next, interleaved := rest })
      else fromInterleaved a
    | none => fromInterleaved a
  match finished with
  | some t =>
    if !t.suppressKeepAlive && a.running.isNone then (finished, { a with becameIdle := now })
    else (finished, a)
  | none => (none, a)
where
  fromInterleaved (a : Activation) : Option Turn × Activation :=
    match a.interleaved.findIdx? (·.id == id) with
    | some i => (a.interleaved[i]?, { a with interleaved := a.interleaved.eraseIdx i })
    | none => (none, a)

def isInactive (a : Activation) : Bool := a.running.isNone && a.mailbox.isEmpty

/-- The time since the activation last became idle; zero while busy. -/
def idleness (a : Activation) (now : Instant) : Duration :=
  if a.isInactive then now.since a.becameIdle else .zero

def isStale (a : Activation) (now : Instant) : Bool := a.ageLimit ≤ a.idleness now

def keptAlive (a : Activation) (now : Instant) : Bool :=
  match a.keepAliveUntil with
  | some u => u ≥ now
  | none => false

def isCandidate (a : Activation) (now : Instant) : Bool :=
  a.state.isUsable && a.isInactive && !a.keptAlive now

/-- Keeps the activation alive for `d` from `now`; zero clears the keep-alive. -/
def delayDeactivation (a : Activation) (d : Duration) (now : Instant) : Activation :=
  if d.isZero then { a with keepAliveUntil := none }
  else
    match now.add? d with
    | some u => { a with keepAliveUntil := some u }
    | none => { a with keepAliveUntil := some (now + keepAliveForever.toNanos) }

def resetKeepAlive (a : Activation) : Activation := { a with keepAliveUntil := none }

/-- Queues an action for the next time the activation is idle. -/
def addOnIdle (a : Activation) (act : IdleAction) : Activation :=
  { a with onIdle := a.onIdle ++ [act] }

/-- Takes the queued idle actions if the activation is idle now. -/
def takeOnIdle (a : Activation) : List IdleAction × Activation :=
  if a.isInactive then (a.onIdle, { a with onIdle := [] }) else ([], a)

def takePending (a : Activation) : List Message × Activation := (a.mailbox, { a with mailbox := [] })

/-- Marks the activation for shutdown with `reason`; false when it already was. -/
def startShuttingDown (a : Activation) (reason : DeactivationReason) : Activation × Bool :=
  if a.shuttingDown then (a, false) else ({ a with shuttingDown := true, reason := some reason }, true)

/-- Requests counted against the overload limit, without those being dispatched. -/
def requestCount (a : Activation) : Nat := a.waitingCount + a.runningCount

/-- Refuses a request when `count` is over the hard limit. -/
def checkCount (a : Activation) (count : Nat) : Except LimitExceeded Unit :=
  if a.limit.hard > 0 && count > a.limit.hard then .error ⟨a.limit.name, count, a.limit.hard⟩
  else .ok ()

/-- Refuses a request when the activation is over its hard limit. -/
def checkOverloaded (a : Activation) : Except LimitExceeded Unit :=
  a.checkCount (a.requestCount + a.dispatching)

/-- `[address] #Type`. -/
def render (a : Activation) : String := a.address.render ++ " #" ++ a.grainType.name

/-- `ActivationRecord { address: …, grain_type: "Type", .. }`. -/
def structural (a : Activation) : String :=
  "ActivationRecord \x7b address: " ++ a.address.structural ++ ", grain_type: " ++
    Text.quoted a.grainType.name ++ ", .. \x7d"

/-- A status dump at `now`: state, counts, idleness, age limit, keep-alive, ticket and
forwarding address, then the running turn and every waiting message on lines of
their own. -/
def detailed (a : Activation) (now : Instant) : String :=
  let head := a.render ++ " State=" ++ a.state.name ++ " Waiting=" ++ toString a.waitingCount ++
    " Running=" ++ toString a.runningCount ++ " Idle=" ++ (a.idleness now).render ++
    " AgeLimit=" ++ a.ageLimit.render
  let keep := match a.keepAliveUntil with
    | some u => " KeepAlive=" ++ (u.since now).render
    | none => ""
  let ticket := match a.ticket with
    | some t => " Ticket=" ++ toString t
    | none => ""
  let fwd := match a.forwardTo with
    | some f => " ForwardTo=" ++ f.render
    | none => ""
  let turn := match a.running with
    | some t => "\n   Processing " ++ correlationText t.id ++ " for " ++ (now.since t.started).render
    | none => ""
  head ++ keep ++ ticket ++ fwd ++ turn ++ String.join (a.mailbox.map fun m => "\n   Waiting: " ++ m.render)

end Activation

end ActorSilo
