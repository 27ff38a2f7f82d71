import ActorSilo.Silo.Dispatch

/-! # The life of an activation

An activation starts in its own task: the grain is made, the record moves to `activating`, the
state is read, the activation is registered in the directory and the activation hook runs; if
the record stopped being `activating` on the way, the start fails as invalidated. A failed start
makes the record invalid and forwards or refuses its waiting requests. Destroying runs the
deactivation hooks side by side, unregisters the activations together, then ends each record;
shutting down destroys idle activations at once and the others once they are next idle.
-/

namespace ActorSilo

namespace SiloM

variable {γ : Type}

def stillActivating (slot : Nat) : SiloM γ Bool := do
  pure ((← record? slot).any (·.state == .activating))

/-- Reads the stored state of a grain from its type's storage provider. -/
def loadState (t : GrainType) (g : GrainId) : SiloM γ (Except ActivationError (Option StoredState)) := do
  let some name := t.storageProvider | return .ok none
  match Store.named (← Async.get).providers name with
  | .error e => return .error (.storage e)
  | .ok p =>
    Async.sleepFor p.latency
    match p.outage with
    | some why => return .error (.storage (.unavailable why))
    | none => return .ok (p.store.read? t.name g)

/-- Registers an activation in the directory: a stateless worker among others, any
other grain as its single activation. -/
def registerInDirectory (a : Activation) : SiloM γ (Except ActivationError Unit) := do
  let w ← Async.get
  if a.grainType.statelessWorker then
    match w.refusals.check "register" with
    | .error e => return .error (.directory e)
    | .ok () =>
      Async.modify fun w => { w with directory := w.directory.register a.address }
      return .ok ()
  else
    match w.refusals.check "register_single" with
    | .error e => return .error (.directory e)
    | .ok () =>
      let (d, reg) := w.directory.registerSingle a.address
      Async.modify fun w => { w with directory := d }
      match reg with
      | .registered _ => return .ok ()
      | .duplicate winner => return .error (.duplicate winner)

/-- The context of hook calls on the activation of a record. -/
def hookContext (a : Activation) (slot : Nat) : GrainContext := ⟨a.address, [], slot⟩

def activate [Grains γ] (slot : Nat) : SiloM γ (Except ActivationError Unit) := do
  let some a ← record? slot | return .error .invalidated
  let some app := Grains.create slot a (← Async.get).app | Async.panic "grain factory panicked"
  Async.modify fun w => { w with app }
  let moved ← withRecord slot false fun _ a =>
    match a.setState .activating with
    | (a, true) => ({ a with hasGrain := true }, true)
    | (a, false) => (a, false)
  if !moved then return .error .invalidated
  let state ← match ← loadState a.grainType a.grain with
    | .ok s => pure s
    | .error e => return .error e
  if !(← stillActivating slot) then return .error .invalidated
  if let .error e ← registerInDirectory a then return .error e
  if !(← stillActivating slot) then return .error .invalidated
  let ctx := hookContext a slot
  let outcome ← Async.catchPanic (Grains.onActivate ctx state)
  match outcome with
  | none | some .panicked => return .error (.hook (.failed "activate hook panicked"))
  | some (.failed e) => return .error (.hook e)
  | some (.ok ()) => pure ()
  if !(← stillActivating slot) then
    let reason := ((← record? slot).bind (·.reason)).getD .explicitRequest
    let _ ← Async.catchPanic (Grains.onDeactivate ctx reason)
    return .error .invalidated
  return .ok ()

/-- A start failed: the record becomes invalid and leaves the catalog, and its waiting
requests are forwarded to the winner of the registration or refused. -/
def onActivationFailed (slot : Nat) (err : ActivationError) : SiloM γ Unit := do
  let forwardTo := match err with
    | .duplicate winner => some winner
    | _ => none
  let pending ← withRecord slot [] fun _ a =>
    let (p, a) := ({ a with forwardTo } |>.setState .invalid).1.takePending
    (a, p)
  unregisterLocally slot
  let some a ← record? slot | pure ()
  match forwardTo with
  | some winner => pending.forM fun m => redirect m (some winner) "resend from duplicate activation"
  | none =>
    let reason := "activation " ++ a.address.render ++ " failed: " ++ err.message
    pending.forM fun m => reject (m.addCacheInvalidation a.address) .unrecoverable reason
    unregisterAddress a.address
  notifyDeactivated slot

/-- The task that starts the activation of a record; its outcome is kept. -/
def initActivation [Grains γ] (slot : Nat) : SiloM γ Unit := do
  let result ← activate slot
  match result with
  | .ok () => onActivateDeactivateCompleted slot
  | .error e => onActivationFailed slot e
  Async.modify fun w => { w with inits := w.inits ++ [(slot, result)] }

/-- Moves a record to `deactivating` if it is in the catalog: whether its deactivation
hook is due, and why it goes. -/
def beginDestroy (slot : Nat) : SiloM γ (Option (Nat × Bool × DeactivationReason)) :=
  Async.update fun _ w =>
    match w.record? slot with
    | none => (w, none)
    | some a =>
      if !w.isRegistered a.id then (w, none)
      else
        let activated := a.state == .inactive
        match a.setState .deactivating with
        | (_, false) => (w, none)
        | (a, true) =>
          (w.putRecord slot a, some (slot, activated && a.hasGrain, a.reason.getD .explicitRequest))

def deactivateHook [Grains γ] (slot : Nat) (reason : DeactivationReason) : SiloM γ Unit := do
  let some a ← record? slot | pure ()
  let _ ← Async.catchPanic (Grains.onDeactivate (hookContext a slot) reason)

/-- Ends a destroyed record: invalid, out of the catalog, its grain's cache entry stale,
its end announced, and its waiting requests sent on to be addressed anew. -/
def endRecord (slot : Nat) : SiloM γ Unit := do
  let pending ← withRecord slot [] fun _ a =>
    let (p, a) := { (a.setState .invalid).1 with forwardTo := none }.takePending
    (a, p)
  unregisterLocally slot
  let some a ← record? slot | pure ()
  invalidateCache a.grain
  notifyDeactivated slot
  pending.forM fun m => sendMessage m.clearTargetAddress

def destroyActivations [Grains γ] (slots : List Nat) : SiloM γ Unit := do
  let batch ← slots.filterMapM beginDestroy
  if batch.isEmpty then return
  Async.all (batch.map fun (slot, hook, reason) => if hook then deactivateHook slot reason else pure ())
  let w ← Async.get
  let addresses := (batch.filterMap fun (slot, _, _) => w.record? slot).map (·.address)
  if let .ok () := w.refusals.check "unregister_many" then
    Async.modify fun w => { w with directory := w.directory.unregisterMany addresses }
  batch.forM fun (slot, _, _) => endRecord slot

/-- Marks a record for shutdown: `some true` when it may go at once, `some false` when it
goes once idle, `none` when it was marked already. -/
def markShutdown (reason : DeactivationReason) (slot : Nat) : SiloM γ (Option Bool) :=
  Async.update fun _ w =>
    match w.record? slot with
    | none => (w, none)
    | some a =>
      match a.startShuttingDown reason with
      | (a, false) => (w.putRecord slot a, none)
      | (a, true) =>
        if a.state == .inactive && a.isInactive then (w.putRecord slot a, some true)
        else (w.putRecord slot (a.addOnIdle .destroy), some false)

/-- Shuts the activations of records down and waits until they are gone. -/
def shutdownActivations [Grains γ] (slots : List Nat) (reason : DeactivationReason) : SiloM γ Unit := do
  if slots.isEmpty then return
  let marks ← slots.mapM fun slot => do pure (slot, ← markShutdown reason slot)
  let now := marks.filterMap fun (slot, m) => if m == some true then some slot else none
  let later := marks.filterMap fun (slot, m) => if m == some false then some slot else none
  Async.all [destroyActivations now, Async.all (later.map waitDeactivated)]

/-- Shuts down the activations idle past their age limit, in the buckets now due:
how many. -/
def collectStale [Grains γ] : SiloM γ Nat := do
  let w ← Async.get
  match w.collector.scanStale w.newest (← Async.now) with
  | .error _ => Async.panic ClockOverflow.message
  | .ok (c, acts, stale) =>
    Async.modify fun w => { w.putNewest acts with collector := c }
    if !stale.isEmpty then
      shutdownActivations (stale.filterMap w.slotOf?) .idleCollection
    pure stale.length

/-- Shuts down every activation idle for at least `age`: how many. -/
def collectActivations [Grains γ] (age : Duration) : SiloM γ Nat := do
  let w ← Async.get
  let (c, acts, victims) := w.collector.scanAll w.newest age (← Async.now)
  Async.modify fun w => { w.putNewest acts with collector := c }
  shutdownActivations (victims.filterMap w.slotOf?) .explicitRequest
  pure victims.length

def deleteGrains [Grains γ] (grains : List GrainId) : SiloM γ Unit := do
  let w ← Async.get
  destroyActivations (grains.flatMap w.targetsOf)

def deleteActivations [Grains γ] (addresses : List ActivationAddress) : SiloM γ Unit := do
  let w ← Async.get
  destroyActivations (addresses.filterMap fun a => w.findTarget? a.activation)

def deactivateAll [Grains γ] (reason : DeactivationReason) : SiloM γ Unit := do
  shutdownActivations (← Async.get).allTargets reason

/-- Keeps the activation of a record alive for a while, at most the configured cap. -/
def delayDeactivation (slot : Nat) (d : Duration) : SiloM γ Unit := do
  let d := match (← Async.get).config.collection.maxKeepAlive with
    | some cap => if cap < d then cap else d
    | none => d
  changeRecord slot fun now a => a.delayDeactivation d now

/-- Shuts the activation of a record down once it is idle. -/
def deactivateOnIdle (slot : Nat) : SiloM γ Unit := do
  changeRecord slot fun _ a => a.resetKeepAlive
  launch (.shutdown [slot] .applicationRequest)

/-- The activations whose directory partition was owned by a silo that left: their
keep-alives are dropped. -/
def ownerLost (silo : SiloAddress) : SiloM γ (List Nat) :=
  Async.update fun _ w =>
    let victims := w.allTargets.filter fun slot =>
      (w.record? slot).any fun a => w.directory.primary? a.grain == some silo
    (victims.foldl (fun w slot => match w.record? slot with
      | some a => w.putRecord slot a.resetKeepAlive
      | none => w) w, victims)

/-- Changes the status of a silo. When it changed, the catalog hears of it: the
activations whose directory partition was owned by another silo that is now leaving are
shut down, in a task of their own when `spawn` allows it. -/
def updateStatus (silo : SiloAddress) (status : SiloStatus) (spawn : Bool) : SiloM γ Unit := do
  let changed ← Async.update fun _ w =>
    let (m, changed) := w.membership.update silo status
    ({ w with membership := m }, changed)
  if !changed || !(← Async.get).listening then return
  if silo == (← Async.get).localSilo || !status.isTerminating then return
  let victims ← ownerLost silo
  if spawn && !victims.isEmpty then launch (.shutdown victims .directoryOwnerLost)

/-- Runs the turn of a message on the activation of a record, answers a request with its
outcome, and lets the activation go on. -/
def invoke [Grains γ] (slot : Nat) (m : Message) : SiloM γ Unit := do
  let some a ← record? slot | pure ()
  let ctx : GrainContext := ⟨a.address, m.callChain ++ [⟨a.grain, a.id, m.interfaceId, m.methodId⟩], slot⟩
  let outcome ← if a.hasGrain then
      pure ((← Async.catchPanic (Grains.invoke ctx m.interfaceId m.methodId m.body)).getD .panicked)
    else pure (.failed (.failed "activation has no grain instance"))
  if m.direction == .request then
    match outcome with
    | .ok body => sendResponse m (.success body)
    | .failed e => sendResponse m (.fault (.application e.message))
    | .panicked => sendResponse m (.fault (.application "grain method panicked"))
  onCompletedRequest slot m

end SiloM

end ActorSilo
