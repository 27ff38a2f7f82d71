import ActorSilo.Silo.World
import ActorSilo.Placement.Director

/-! # Sending messages

A message for this silo, or for no silo in particular, loops back into the inbound channel; one
for another silo takes the route to other silos, if there is one. A request or one-way message
without a target activation is first addressed in a task of its own by its placement strategy.
Refusals answer requests only; a request may be resent after a transient refusal and forwarded
after it found its activation gone, each within its budget.
-/

namespace ActorSilo

namespace SiloM

variable {γ : Type}

def transport (m : Message) : SiloM γ Unit := do
  let w ← Async.get
  let isLocal := match m.targetSilo with
    | some s => s == w.localSilo
    | none => true
  if isLocal then
    Async.modify fun w => { w with inbound := w.inbound ++ [m] }
    Async.notify .inbound
  else
    Async.modify fun w => { w with outbound := w.outbound.map (· ++ [m]) }

/-- Sends a message: responses and addressed messages go out now, the others are
addressed first, in a task of their own. -/
def sendMessage (m : Message) : SiloM γ Unit :=
  if m.direction == .response then
    if m.targetSilo.isSome then transport m else pure ()
  else if m.isFullyAddressed then transport m
  else launch (.address m)

/-- Answers a request with `r`. -/
def sendResponse (request : Message) (r : Response) : SiloM γ Unit :=
  sendMessage (request.createResponse r)

def reject (m : Message) (kind : RejectionKind) (reason : String) : SiloM γ Unit :=
  if m.direction == .request then sendMessage (m.createRejection kind reason) else pure ()

/-- Sends a request again, addressed anew, while its resend budget lasts: the request
as sent. -/
def tryResend (m : Message) : SiloM γ (Option Message) := do
  let w ← Async.get
  if m.resendCount ≥ w.config.messaging.maxResendCount then return none
  let m := { m with resendCount := m.resendCount + 1 }.clearTargetAddress
  sendMessage m
  return some m

/-- Forwards a message to `target`, or addresses it anew, while its forward budget lasts:
true when it was sent. -/
def tryForward (m : Message) (target : Option ActivationAddress) : SiloM γ Bool := do
  let w ← Async.get
  if m.forwardCount ≥ w.config.messaging.maxForwardCount then return false
  let m := { m with forwardCount := m.forwardCount + 1 }
  let m := match target with
    | some a => { m.withTargetAddress a with isNewPlacement := false }
    | none => m.clearTargetAddress
  sendMessage m
  return true

/-- A message that reached an activation that is no longer valid: its target is marked
stale, and it is forwarded to where the activation went, else refused for `reason`. -/
def redirect (m : Message) (forwardTo : Option ActivationAddress) (reason : String) : SiloM γ Unit := do
  let m := match m.targetAddress with
    | some stale => m.addCacheInvalidation stale
    | none => m
  if let some target := forwardTo then
    if ← tryForward m (some target) then return
  reject m .unrecoverable reason

/-- What the directory says of a grain: its cached entry when it has one, else the
full look-up, which may fail. -/
def known (w : World γ) (g : GrainId) : Except DirectoryError (List ActivationAddress) :=
  match w.directory.lookup? g with
  | some (a :: as) => .ok (a :: as)
  | _ => do
    w.refusals.check "full_lookup"
    pure (w.directory.fullLookup g)

/-- Finds the activation a message goes to, then sends it. -/
def addressMessage (m : Message) : SiloM γ Unit := do
  let w ← Async.get
  let strategy := m.placement <|> (w.types.get? m.targetGrain.grainType).map (·.placement)
  let strategy ← match strategy with
    | some s => pure (some s)
    | none => if m.targetGrain.isClient then pure (some PlacementStrategy.fallback) else pure none
  let some strategy := strategy
    | reject m .unrecoverable ("unknown grain type " ++ GrainId.typeText m.targetGrain.grainType)
  let fresh ← freshId
  let w ← Async.get
  let view : PlacementView :=
    { localSilo := w.localSilo, active := w.activeSilos, localActivations := w.localActivations m.targetGrain }
  match Placement.place view (fun _ => known w m.targetGrain) m.targetGrain strategy w.picker fresh with
  | .ok p => transport { m.withTargetAddress p.address with isNewPlacement := p.isNew, placement := some p.strategy }
  | .error e => reject m .unrecoverable e.message

end SiloM

end ActorSilo
