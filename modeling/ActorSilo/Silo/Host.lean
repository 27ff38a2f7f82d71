import ActorSilo.Silo.Lifecycle

/-! # Running a silo

The procedures of silo tasks, what grain code may ask of the silo, and the silo's own
start and stop.

A started silo runs two tasks of its own: one receives the messages of the loopback
channel, one ticks every collection quantum, starting one quantum after the start, and
collects stale activations in a task per tick. Stopping a silo that is not already
shutting down marks it shutting down, shuts every activation down, marks it dead and
ends its own two tasks.
-/

namespace ActorSilo

namespace SiloM

variable {γ : Type}

def takeInbound : SiloM γ (Option Message) :=
  Async.update fun _ w =>
    match w.inbound with
    | [] => (w, none)
    | m :: rest => ({ w with inbound := rest }, some m)

/-- Starts the silo's own tasks and lets the catalog hear of membership changes. -/
def start : SiloM γ Unit := do
  let pump ← Async.spawn (Async.call .pump)
  let quantum := (← Async.get).collector.quantum
  let ticker ← Async.spawn (do Async.call (.ticker ((← Async.now) + quantum.toNanos) quantum))
  Async.modify fun w => { w with daemons := [pump, ticker], listening := true }

def stop [Grains γ] : SiloM γ (Except SiloError Unit) := do
  let w ← Async.get
  if w.status.isTerminating then return .error .shuttingDown
  updateStatus w.localSilo .shuttingDown true
  deactivateAll .siloShutdown
  updateStatus w.localSilo .dead true
  (← Async.get).daemons.forM Async.cancel
  return .ok ()

def call (target : GrainId) (iface method : Nat) (body : List UInt8) (flags : MessageFlags) :
    SiloM γ (Except RequestError (List UInt8)) := do
  let id ← freshId
  sendRequest { Message.request id target iface method body with flags }

def oneWay (target : GrainId) (iface method : Nat) (body : List UInt8) (flags : MessageFlags) :
    SiloM γ Unit := do
  let id ← freshId
  sendOneWay { Message.oneWayTo id target iface method body with flags }

end SiloM

section

open SiloM

def Proc.run {γ : Type} [Grains γ] : Proc → Program (World γ) Event Proc
  | .pump => Async.toProgram do
    Async.waitToTake .inbound fun w => !w.inbound.isEmpty
    if let some m ← takeInbound then receiveMessage m
    Async.call .pump
  | .ticker due period => Async.toProgram do
    Async.sleepUntil due
    let next := due.nextTick (← Async.now) period
    launch .collect
    Async.call (.ticker next period)
  | .collect => Async.toProgram do
    let _ ← collectStale
  | .callbackTick id due period => (callbackSite.tickRound id due period).toProgram
  | .address m => (addressMessage m).toProgram
  | .init slot => (initActivation slot).toProgram
  | .turn slot m => Async.toProgram do
    invoke slot m
    Async.modify fun w => { w with inFlight := w.inFlight - 1 }
  | .destroy slots => (destroyActivations slots).toProgram
  | .shutdown slots reason => (shutdownActivations slots reason).toProgram
  | .forward stale m => Async.toProgram do
    unregisterAddress stale
    forwardOrReject m stale
  | .unregisterLater stale delay => Async.toProgram do
    Async.sleepFor delay
    unregisterAddress stale

end

namespace GrainContext

variable {γ : Type}

/-- A message sent by the running activation, carrying its call chain. -/
def outgoing (ctx : GrainContext) (m : Message) (flags : MessageFlags) : Message :=
  { m with
    flags
    sendingSilo := some ctx.address.silo
    sendingGrain := some ctx.address.grain
    sendingActivation := some ctx.address.activation
    callChain := ctx.chain }

def call (ctx : GrainContext) (target : GrainId) (iface method : Nat) (body : List UInt8)
    (flags : MessageFlags) : SiloM γ (Except RequestError (List UInt8)) := do
  let id ← SiloM.freshId
  SiloM.sendRequest (ctx.outgoing (Message.request id target iface method body) flags)

def sendOneWay (ctx : GrainContext) (target : GrainId) (iface method : Nat) (body : List UInt8) :
    SiloM γ Unit := do
  let id ← SiloM.freshId
  SiloM.sendOneWay (ctx.outgoing (Message.oneWayTo id target iface method body) .empty)

def delayDeactivation (ctx : GrainContext) (d : Duration) : SiloM γ Unit :=
  SiloM.delayDeactivation ctx.slot d

/-- Shuts the running activation down once it is idle. -/
def deactivateOnIdle (ctx : GrainContext) : SiloM γ Unit := SiloM.deactivateOnIdle ctx.slot

end GrainContext

end ActorSilo
