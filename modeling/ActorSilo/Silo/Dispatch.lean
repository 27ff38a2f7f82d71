import ActorSilo.Silo.Catalog

/-! # Dispatching received messages

`receiveMessage` drops expired messages, injects the configured faults, drops stale cache
entries, hands responses to the client, refuses requests while the silo shuts down, and has the
catalog find or make the target activation; a request for an activation that is gone is
forwarded anew. An activation runs a request at once when it may (`Activation.mayAccept`);
otherwise the request is answered with a deadlock, refused as overloaded, or queued. When a turn
ends, the collection slot moves on, the mailbox is pumped and the idle actions run.
-/

namespace ActorSilo

namespace SiloM

variable {γ : Type}

/-- Starts the turn of a request on the activation of a record. -/
def handleIncoming (slot : Nat) (m : Message) : SiloM γ Unit := do
  changeRecord slot fun now a => a.recordRunning m now
  Async.modify fun w => { w with inFlight := w.inFlight + 1 }
  launch (.turn slot m)

/-- Starts the turns of waiting messages while the activation accepts them; expired
messages are dropped on the way. -/
def pumpMailbox (slot : Nat) : Nat → SiloM γ Unit
  | 0 => pure ()
  | fuel + 1 => do
    let some a ← record? slot | pure ()
    if !a.state.isUsable then return
    let some next := a.peek? | pure ()
    if !a.mayAccept next a.grainType.reentrant then return
    changeRecord slot fun _ a => a.dequeue.2
    if !next.isExpired (← Async.now) then handleIncoming slot next
    pumpMailbox slot fuel

def messagePump (slot : Nat) : SiloM γ Unit := do
  let some a ← record? slot | pure ()
  pumpMailbox slot a.mailbox.length

def runIdleActions (slot : Nat) (actions : List IdleAction) : SiloM γ Unit :=
  actions.forM fun
    | .destroy => launch (.destroy [slot])
    | .mark _ => pure ()

/-- Takes the actions waiting for the activation to be idle, if it is. -/
def takeOnIdle (slot : Nat) : SiloM γ (List IdleAction) :=
  withRecord slot [] fun _ a => let (acts, a) := a.takeOnIdle; (a, acts)

/-- A turn ended: the request stops running, the collection slot moves on, the mailbox
is pumped and the idle actions run. -/
def onCompletedRequest (slot : Nat) (m : Message) : SiloM γ Unit := do
  changeRecord slot fun now a => (a.resetRunning m.id now).2
  scheduleCollection slot
  messagePump slot
  runIdleActions slot (← takeOnIdle slot)

/-- An activation finished starting: it becomes inactive, is scheduled for collection
and its mailbox pumped; then the idle actions run. -/
def onActivateDeactivateCompleted (slot : Nat) : SiloM γ Unit := do
  let some a ← record? slot | pure ()
  if a.state == .activating then
    let moved ← withRecord slot false fun _ a => a.setState .inactive
    if moved then
      scheduleCollection slot
      messagePump slot
  runIdleActions slot (← takeOnIdle slot)

/-- Answers a request that would close a cycle with a deadlock fault carrying the chain. -/
def replyDeadlock (m : Message) (a : Activation) : SiloM γ Unit :=
  let chain := m.callChain ++ [⟨a.grain, a.id, m.interfaceId, m.methodId⟩]
  if m.direction == .request then sendResponse m (.fault (.deadlock chain)) else pure ()

/-- Hands a request to the activation of a record. -/
def receiveRequest (m : Message) (slot : Nat) : SiloM γ Unit := do
  let some a ← record? slot | pure ()
  if a.state == .invalid then
    redirect m a.forwardTo "request for invalid activation"
    return
  let reentrant := a.grainType.reentrant
  if a.mayAccept m reentrant then
    handleIncoming slot m
    return
  let w ← Async.get
  if w.config.messaging.performDeadlockDetection && !reentrant && m.callChainContains a.id then
    replyDeadlock m a
    return
  match a.checkOverloaded with
  | .error limit => reject m .overloaded limit.message
  | .ok () =>
    match a.enqueue m with
    | .ok a => Async.modify fun w => w.putRecord slot a
    | .error _ => pure ()

/-- Hands a request to the record at `slot` as the dispatcher receives it: while it is handed
over, it counts against the record's overload limit as one being dispatched. -/
def dispatchRequest (m : Message) (slot : Nat) : SiloM γ Unit := do
  changeRecord slot fun _ a => { a with dispatching := a.dispatching + 1 }
  receiveRequest m slot
  changeRecord slot fun _ a => { a with dispatching := a.dispatching - 1 }

def rejectForShutdown (m : Message) : SiloM γ Unit := do
  let w ← Async.get
  let kind := if m.resendCount < w.config.messaging.maxResendCount then RejectionKind.transient
    else .unrecoverable
  reject m kind ("silo " ++ w.localSilo.render ++ " is shutting down")

/-- Sends on a message that found its activation gone: forwarded while its budget lasts,
refused otherwise. -/
def forwardOrReject (m : Message) (stale : ActivationAddress) : SiloM γ Unit := do
  if ← tryForward m none then return
  reject m .transient ("non-existent activation " ++ stale.render ++ ", forward budget exhausted")

/-- A request for an activation that is gone: the stale address is marked, unregistered
(at once or after the configured delay) and the request sent on. -/
def forwardToNewTarget (m : Message) (stale : ActivationAddress) : SiloM γ Unit := do
  let m := m.addCacheInvalidation stale
  invalidateCache stale.grain
  match (← Async.get).config.messaging.lazyUnregisterDelay with
  | none => launch (.forward stale m)
  | some delay =>
    launch (.unregisterLater stale delay)
    forwardOrReject m stale

/-- Whether a fault with the given rate strikes: a rate at or below zero never does;
otherwise the next number of the fault stream, in `[0, 1)`, decides, striking when it
is below the rate. -/
def roll (rate : Float) : SiloM γ Bool := do
  if rate ≤ 0.0 then return false
  Async.update fun _ w =>
    let (x, faults) := w.faults.unit
    ({ w with faults }, x < rate)

def receiveMessage (m : Message) : SiloM γ Unit := do
  if m.isExpired (← Async.now) then return
  let w ← Async.get
  if m.direction == .request then
    if ← roll w.config.messaging.rejectionInjectionRate then
      reject m .transient "Injected rejection"
      return
    if ← roll w.config.messaging.messageLossInjectionRate then return
  let stale := m.cacheInvalidation
  let m := { m with cacheInvalidation := [] }
  stale.forM fun a => invalidateCache a.grain
  let some target := m.targetAddress
    | if m.direction == .response then receiveResponse m
      else reject m .unrecoverable "message is not fully addressed"
  if m.direction == .response && m.targetGrain.isClient then
    receiveResponse m
    return
  let w ← Async.get
  if m.isRequestLike && w.status.isTerminating then
    rejectForShutdown m
    return
  let placement := if m.isNewPlacement then
      m.placement <|> (w.types.get? m.targetGrain.grainType).map (·.placement)
    else none
  match ← getOrCreate target placement with
  | .ok (slot, _) =>
    if m.direction == .response then
      let some a ← record? slot | pure ()
      if a.state == .invalid then return
      receiveResponse m
    else dispatchRequest m slot
  | .error (.nonExistentActivation stale) =>
    if m.direction == .response then invalidateCache stale.grain
    else forwardToNewTarget m stale
  | .error (.unknownGrainType t) => reject m .unrecoverable ("unknown grain type " ++ GrainId.typeText t)
  | .error e => reject m .transient e.message

end SiloM

end ActorSilo
