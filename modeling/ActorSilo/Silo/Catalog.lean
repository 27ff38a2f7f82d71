import ActorSilo.Silo.Client

/-! # The catalog of activations

The catalog finds the local activation a message is for, or makes it. A message whose
activation is here finds it, and the activation's collection slot is moved on; a
message that comes with a placement makes the activation when it is missing, and a new
record starts its initialization in a task of its own. Without a placement a missing
activation stays missing: the message was meant for an activation that is gone.

A record leaves the catalog when its activation fails or is destroyed; it then also
leaves the idle-collection wheel. Records of activations that are scheduled for
collection are moved to the bucket of their age limit each time they finish a turn.
-/

namespace ActorSilo

namespace SiloM

variable {γ : Type}

/-- Moves the record in a slot to the collection bucket of its age limit from now; a
record not in the wheel is put there. -/
def scheduleCollection (slot : Nat) : SiloM γ Unit := do
  let some a ← record? slot | pure ()
  if a.isExempt then return
  let w ← Async.get
  let now ← Async.now
  match w.collector.reschedule a a.ageLimit now with
  | .error _ => Async.panic ClockOverflow.message
  | .ok (c, a, true) => Async.modify fun w => { w.putRecord slot a with collector := c }
  | .ok (c, a, false) =>
    match c.schedule a a.ageLimit now with
    | .error _ => Async.panic ClockOverflow.message
    | .ok (.ok (c, a)) => Async.modify fun w => { w.putRecord slot a with collector := c }
    | .ok (.error _) => Async.modify fun w => { w.putRecord slot a with collector := c }

/-- Moves a found record's collection slot on, when it has one. -/
def rescheduleCollection (slot : Nat) : SiloM γ Unit := do
  let some a ← record? slot | pure ()
  if a.isExempt then return
  let w ← Async.get
  match w.collector.reschedule a a.ageLimit (← Async.now) with
  | .error _ => Async.panic ClockOverflow.message
  | .ok (c, a, _) => Async.modify fun w => { w.putRecord slot a with collector := c }

/-- Finds the activation of an address, or makes it when a placement comes with the
message: its slot and, when it was made, the task that initializes it. -/
def getOrCreate (target : ActivationAddress) (placement : Option PlacementStrategy) :
    SiloM γ (Except CatalogError (Nat × Option Nat)) := do
  let w ← Async.get
  let grainType ← match placement with
    | some _ =>
      match w.types.get? target.grain.grainType with
      | some t => pure (some t)
      | none => return .error (.unknownGrainType target.grain.grainType)
    | none => pure none
  if let some slot := w.findTarget? target.activation then
    rescheduleCollection slot
    return .ok (slot, none)
  let some t := grainType | return .error (.nonExistentActivation target)
  let now ← Async.now
  let a := Activation.make target t (w.config.limits.forGrain t.statelessWorker) (w.ageLimitOf t) now
  let slot ← Async.update fun _ w =>
    let (w, slot) := w.addRecord a
    ({ w with registry := w.registry.record a, registeredSlots := w.registeredSlots ++ [(a.id, slot)] }, slot)
  let task ← Async.spawn (Async.call (.init slot))
  return .ok (slot, some task)

/-- Takes a record out of the registry, and then out of the collection wheel. -/
def unregisterLocally (slot : Nat) : SiloM γ Unit :=
  Async.modify fun w =>
    match w.record? slot with
    | none => w
    | some a =>
      let (r, removed) := w.registry.remove a
      let w := { w with registry := r, registeredSlots := w.registeredSlots.filter (·.1 != a.id) }
      if removed then
        let (c, a, _) := w.collector.cancel a
        { w.putRecord slot a with collector := c }
      else w

/-- Marks the activation of a record destroyed and wakes those waiting for that. -/
def notifyDeactivated (slot : Nat) : SiloM γ Unit := do
  changeRecord slot fun _ a => { a with deactivated := true }
  Async.notify (.deactivated slot)

/-- Waits until the activation of a record is destroyed. -/
def waitDeactivated (slot : Nat) : SiloM γ Unit :=
  Async.waitFor (.deactivated slot) fun w => (w.record? slot).any (·.deactivated)

def invalidateCache (g : GrainId) : SiloM γ Unit :=
  Async.modify fun w => { w with directory := w.directory.invalidate g }

/-- Removes an address from the directory, unless the directory refuses. -/
def unregisterAddress (a : ActivationAddress) : SiloM γ Unit :=
  Async.modify fun w =>
    match w.refusals.check "unregister" with
    | .ok () => { w with directory := w.directory.unregister a }
    | .error _ => w

end SiloM

end ActorSilo
