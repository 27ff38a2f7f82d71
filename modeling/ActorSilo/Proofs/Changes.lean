import ActorSilo.Silo.Host
import ActorSilo.Proofs.SiloSteps
import ActorSilo.Proofs.Triple

/-! # Every change the silo makes to its world

`Activation.Step` lists the changes the silo makes to one record, each with what the code knows
when it makes it. `World.Change` lists the changes of the world: a record changed by such a step,
a ticket moved (one by one, or by a scan), the wheel replaced, a record made or leaving the
catalog, a step of the directory, and every change that leaves all these alone. `World.Changes`
is the closure; a property every listed change keeps holds along every run of a silo whose code
changes the world only so (`Executor.drive_keeps`).
-/

namespace ActorSilo

instance : LawfulBEq ActivationState where
  eq_of_beq {s t} := by cases s <;> cases t <;> decide
  rfl {s} := by cases s <;> rfl

namespace Activation

/-- `b` is `a` with only its collection ticket changed, as the collection wheel changes it. -/
def Reticketed (a b : Activation) : Prop :=
  { a with ticket := b.ticket, cancelled := b.cancelled } = b

theorem Reticketed.refl (a : Activation) : a.Reticketed a := rfl

theorem Reticketed.trans {a b c : Activation} (first : a.Reticketed b) (second : b.Reticketed c) :
    a.Reticketed c := by
  rw [← second, ← first]
  rfl

theorem reticketed_set (a : Activation) (t : Option Nat) (c : Bool) :
    a.Reticketed { a with ticket := t, cancelled := c } := rfl

/-- Every change the silo makes to one activation record, under the configuration `config`. -/
inductive Step (config : SiloConfig) (a : Activation) : Activation → Prop
  /-- A request starts a turn where the record accepts it. -/
  | start {m : Message} (now : Instant) :
      a.mayAccept m a.grainType.reentrant = true → Step config a (a.recordRunning m now)
  /-- The pump takes the head of the mailbox, which the record accepts. -/
  | dequeue {m : Message} :
      a.peek? = some m → a.mayAccept m a.grainType.reentrant = true → Step config a a.dequeue.2
  | finish (id : Nat) (now : Instant) : Step config a (a.resetRunning id now).2
  /-- The actions waiting for the record to be idle are taken. -/
  | takeOnIdle : Step config a a.takeOnIdle.2
  | ready : a.state = .activating → Step config a (a.setState .inactive).1
  /-- Its start begins: the grain instance is made. -/
  | activating {b : Activation} : a.setState .activating = (b, true) →
      Step config a { b with hasGrain := true }
  | deactivating : Step config a (a.setState .deactivating).1
  /-- A request waits in the mailbox: it may not start now, it does not close a cycle of calls
  that deadlock detection would refuse, the record is not overloaded, and the dispatcher counts
  the request as one it hands over. -/
  | enqueue {m : Message} {b : Activation} :
      a.mayAccept m a.grainType.reentrant = false →
      ¬(config.messaging.performDeadlockDetection = true ∧ a.grainType.reentrant = false ∧
        m.callChainContains a.id = true) →
      a.checkOverloaded = .ok () → 0 < a.dispatching → a.enqueue m = .ok b → Step config a b
  /-- Its start failed: it becomes invalid, pointing at `forwardTo`, and its mailbox is taken. -/
  | fail (forwardTo : Option ActivationAddress) :
      Step config a ({ a with forwardTo }.setState .invalid).1.takePending.2
  /-- It was destroyed: it becomes invalid and its mailbox is taken. -/
  | close : Step config a { (a.setState .invalid).1 with forwardTo := none }.takePending.2
  /-- The count of requests being handed to it changes. -/
  | dispatching (n : Nat) : Step config a { a with dispatching := n }
  | deactivated : Step config a { a with deactivated := true }
  /-- It is kept alive for a while. -/
  | keepAlive (d : Duration) (now : Instant) : Step config a (a.delayDeactivation d now)
  | resetKeepAlive : Step config a a.resetKeepAlive
  | shutdown (reason : DeactivationReason) : Step config a (a.startShuttingDown reason).1
  /-- It is marked for shutdown once it is next idle. -/
  | shutdownLater (reason : DeactivationReason) :
      Step config a ((a.startShuttingDown reason).1.addOnIdle .destroy)

end Activation

namespace Directory

/-- Every change the silo makes to its directory. -/
inductive Step (d : Directory) : Directory → Prop
  | invalidate (g : GrainId) : Step d (d.invalidate g)
  | register (a : ActivationAddress) : Step d (d.register a)
  | registerSingle (a : ActivationAddress) : Step d (d.registerSingle a).1
  | unregister (a : ActivationAddress) : Step d (d.unregister a)
  | unregisterMany (as : List ActivationAddress) : Step d (d.unregisterMany as)

end Directory

namespace World

variable {γ : Type}

/-- Every change the silo makes to its world in one step. -/
inductive Change (w : World γ) : World γ → Prop
  /-- Anything outside the records, the catalog, the collection wheel, the directory, the
  configuration and the grain types: messages sent and taken, callbacks and replies, counters
  and fresh ids, the application's state, the membership. -/
  | outside {w' : World γ} : w'.records = w.records → w'.config = w.config → w'.types = w.types →
      w'.registry = w.registry → w'.registeredSlots = w.registeredSlots →
      w'.directory = w.directory → w'.collector = w.collector → Change w w'
  | record {slot : Nat} {a b : Activation} : w.record? slot = some a → a.Step w.config b →
      Change w (w.putRecord slot b)
  | reticket {slot : Nat} {a b : Activation} : w.record? slot = some a → a.Reticketed b →
      Change w (w.putRecord slot b)
  | wheel (c : Collector) : Change w { w with collector := c }
  /-- A scan of the collection wheel puts back records of the world, their tickets moved: each
  one read from the slot of an activation id. -/
  | rescan {as : List Activation} :
      (∀ a ∈ as, ∃ id slot b, w.slotOf? id = some slot ∧ w.record? slot = some b ∧ b.Reticketed a) →
      Change w (w.putNewest as)
  /-- A new record is made and registered under an id not registered yet. -/
  | create {a : Activation} :
      a = Activation.make a.address a.grainType a.limit a.ageLimit a.created →
      w.findTarget? a.id = none →
      Change w { (w.addRecord a).1 with
        registry := w.registry.record a
        registeredSlots := w.registeredSlots ++ [(a.id, w.records.size)] }
  | leave {slot : Nat} {a : Activation} : w.record? slot = some a →
      Change w { w with
        registry := (w.registry.remove a).1
        registeredSlots := w.registeredSlots.filter (·.1 != a.id) }
  | directory {d : Directory} : w.directory.Step d → Change w { w with directory := d }

/-- The changes the silo makes in one action, or in several. -/
abbrev Changes (w w' : World γ) : Prop := Relation.ReflTransGen Change w w'

theorem Change.changes {w w' : World γ} (change : w.Change w') : w.Changes w' := .single change

theorem putRecord_of_found {w : World γ} {slot : Nat} {a : Activation}
    (found : w.record? slot = some a) : w.putRecord slot a = w := by
  have same : w.records.setIfInBounds slot a = w.records := putRecord_records_self found
  unfold putRecord
  rw [same]

end World

namespace SiloM

variable {γ α β : Type}

/-- Silo code that changes the world only as `World.Changes` allows: started in a world where
`P` holds, it hands each result `a` to what follows in a world where `Q a` holds. -/
abbrev Triple (P : World γ → Prop) (x : SiloM γ α) (Q : α → World γ → Prop) : Prop :=
  Async.Triple (fun _ => True) World.Changes P x Q

/-- Silo code that changes the world only as `World.Changes` allows, wherever it starts. -/
abbrev Sound (x : SiloM γ α) : Prop := Triple (fun _ => True) x fun _ _ => True

/-! ## Sound code is built from sound code -/

theorem Sound.bind {x : SiloM γ α} {f : α → SiloM γ β} (first : Sound x)
    (second : ∀ a, Sound (f a)) : Sound (x >>= f) :=
  Async.Triple.bind first second

theorem sound_pure (a : α) : Sound (pure a : SiloM γ α) := Async.Triple.pure (Q := fun _ _ => True) a

theorem sound_ite {c : Prop} [Decidable c] {x y : SiloM γ α} (yes : Sound x) (no : Sound y) :
    Sound (if c then x else y) := by
  split
  · exact yes
  · exact no

theorem sound_get : Sound (Async.get : SiloM γ (World γ)) := Async.Triple.get (Q := fun _ _ => True)

theorem sound_now : Sound (Async.now : SiloM γ Instant) :=
  (Async.Triple.now (Q := fun _ _ => True)).mono (fun _ _ _ => trivial) fun _ _ _ => trivial

theorem sound_modify {f : World γ → World γ} (change : ∀ w : World γ, w.Changes (f w)) :
    Sound (Async.modify f : SiloM γ Unit) :=
  (Async.Triple.modify (Q := fun _ _ => True)).mono (fun w _ => ⟨change w, trivial⟩) fun _ _ _ => trivial

theorem sound_update {f : Instant → World γ → World γ × α} (change : ∀ t (w : World γ), w.Changes (f t w).1) :
    Sound (Async.update f : SiloM γ α) :=
  (Async.Triple.update (Q := fun _ _ => True)).mono (fun w _ t => ⟨change t w, trivial⟩)
    fun _ _ _ => trivial

theorem sound_panic (why : String) : Sound (Async.panic why : SiloM γ α) := Async.Triple.panic why

theorem sound_call (p : Proc) : Sound (Async.call p : SiloM γ Unit) := Async.Triple.call p

theorem Sound.keepsAlways {x : SiloM γ Unit} (sound : Sound x) :
    x.toProgram.KeepsAlways (fun _ => True) World.Changes :=
  Async.Triple.keepsAlways sound

theorem sound_spawn {child : SiloM γ Unit} (sound : Sound child) : Sound (Async.spawn child) :=
  Async.Triple.spawn sound.keepsAlways

theorem sound_all {xs : List (SiloM γ Unit)} (each : ∀ x ∈ xs, Sound x) : Sound (Async.all xs) :=
  Async.Triple.all fun x member => (each x member).keepsAlways

theorem sound_catchPanic {x : SiloM γ α} (sound : Sound x) : Sound (Async.catchPanic x) :=
  Async.Triple.catchPanic sound fun _ _ => trivial

theorem sound_forM {l : List α} {f : α → SiloM γ PUnit} (each : ∀ a ∈ l, Sound (f a)) :
    Sound (l.forM f) :=
  Async.Triple.forM l each

theorem sound_mapM {l : List α} {f : α → SiloM γ β} (each : ∀ a ∈ l, Sound (f a)) :
    Sound (l.mapM f) :=
  Async.Triple.mapM l each

theorem sound_filterMapM {l : List α} {f : α → SiloM γ (Option β)} (each : ∀ a ∈ l, Sound (f a)) :
    Sound (l.filterMapM f) :=
  Async.Triple.filterMapM l each

/-! ## Code that reads the world before it changes it

Within one stretch nothing else runs, so what was read is still so when the change is made. -/

theorem Sound.triple {x : SiloM γ α} {P : World γ → Prop} (sound : Sound x) :
    Triple P x fun _ _ => True :=
  Async.Triple.mono sound (fun _ _ => trivial) fun _ _ _ => trivial

theorem triple_get {P : World γ → Prop} :
    Triple P (Async.get : SiloM γ (World γ)) fun r w => P w ∧ r = w :=
  fun w holds _ rest => .read fun _ => rest w w ⟨holds, rfl⟩

theorem triple_pure {P : World γ → Prop} (a : α) : Triple P (pure a : SiloM γ α) fun _ => P :=
  Async.Triple.pure (Q := fun _ => P) a

theorem triple_now {P : World γ → Prop} : Triple P (Async.now : SiloM γ Instant) fun _ w => P w :=
  fun w holds _ rest => .read fun t => rest t w holds

theorem triple_modify {P : World γ → Prop} {f : World γ → World γ}
    (change : ∀ w, P w → w.Changes (f w)) : Triple P (Async.modify f) fun _ _ => True :=
  fun w holds _ rest => .act (change w holds) (rest () _ trivial)

theorem triple_update {P : World γ → Prop} {f : Instant → World γ → World γ × α}
    (change : ∀ t w, P w → w.Changes (f t w).1) : Triple P (Async.update f) fun _ _ => True :=
  fun w holds _ rest => .read fun t => .act (change t w holds) (rest _ _ trivial)

/-! ## Records -/

theorem sound_record? (slot : Nat) : Sound (record? slot : SiloM γ (Option Activation)) :=
  sound_get.bind fun _ => sound_pure _

theorem triple_record? {P : World γ → Prop} (slot : Nat) :
    Triple P (record? slot : SiloM γ (Option Activation)) fun r w => P w ∧ r = w.record? slot :=
  fun w holds _ rest => .read fun _ => rest _ w ⟨holds, rfl⟩

theorem triple_withRecord {P : World γ → Prop} {slot : Nat} {dflt : α}
    {f : Instant → Activation → Activation × α}
    (step : ∀ (w : World γ) t a, P w → w.record? slot = some a →
      (f t a).1 = a ∨ a.Step w.config (f t a).1) :
    Triple P (withRecord slot dflt f : SiloM γ α) fun _ _ => True := by
  refine triple_update fun t w holds => ?_
  cases found : w.record? slot with
  | none => exact .refl
  | some a =>
    rcases step w t a holds found with same | changed
    · show w.Changes (w.putRecord slot (f t a).1)
      rw [same, World.putRecord_of_found found]
    · exact (World.Change.record found changed).changes

theorem sound_withRecord {slot : Nat} {dflt : α} {f : Instant → Activation → Activation × α}
    (step : ∀ (w : World γ) t a, w.record? slot = some a → (f t a).1 = a ∨ a.Step w.config (f t a).1) :
    Sound (withRecord slot dflt f : SiloM γ α) :=
  triple_withRecord fun w t a _ found => step w t a found

end SiloM

end ActorSilo
