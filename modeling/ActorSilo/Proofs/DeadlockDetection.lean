import ActorSilo.Proofs.RecordInvariant

/-! # Deadlock detection keeps a request from waiting on its own caller

A turn passes on the chain of its request followed by its own entry, so a request a turn on `a`
causes names `a` on its chain. A request that may not start on a record of a non-reentrant type
with detection on is answered with a deadlock fault when the record is on its chain, and neither
started nor queued. So no waiting request names its own activation (`World.NoCycleWaits`, kept
along every run by `noCycleWaits_invariant`).

**Main result:** `deadlock_detection_prevents_waiting_cycles`.
-/

namespace ActorSilo

namespace Activation

/-- With deadlock detection on (`detect`), no request waiting in the mailbox of an activation
of a grain type that is not reentrant names the activation on its call chain. -/
def NoCycleWaits (detect : Bool) (a : Activation) : Prop :=
  detect = true → a.grainType.reentrant = false → ∀ m ∈ a.mailbox, m.callChainContains a.id = false

theorem enqueue_of_valid {a : Activation} (valid : a.state ≠ .invalid) (m : Message) :
    a.enqueue m = .ok { a with mailbox := a.mailbox ++ [m] } := by
  unfold enqueue
  cases state : a.state with
  | invalid => exact absurd state valid
  | _ => simp [ActivationState.isTerminal]

end Activation

/-- No step of a record queues a request that closes a cycle where detection applies, and the
record's identity stays; a new record waits on nothing. -/
theorem noCycleWaits_invariant :
    RecordInvariant fun config a => a.NoCycleWaits config.messaging.performDeadlockDetection where
  make _ _ _ _ _ _ := fun _ _ _ member => nomatch member
  step {config a b} step holds := by
    intro detect notReentrant m member
    rw [step.grainType] at notReentrant
    rw [step.id]
    rcases step.mailbox with kept | ⟨queued, mailbox, _, acyclic⟩
    · exact holds detect notReentrant m (kept m member)
    · rw [mailbox, List.mem_append, List.mem_singleton] at member
      rcases member with waiting | rfl
      · exact holds detect notReentrant m waiting
      · simpa [detect, notReentrant] using acyclic
  reticket {config a b} moved holds := by
    rw [← moved]
    exact holds

namespace World

variable {γ : Type}

/-- No request waits on an activation that is on its own call chain, where detection applies. -/
abbrev NoCycleWaits (w : World γ) : Prop :=
  w.Each fun config a => a.NoCycleWaits config.messaging.performDeadlockDetection

end World

/-! ## What the dispatcher does with a request -/

namespace SiloM

variable {γ : Type} {w : World γ} {slot : Nat} {a : Activation} {m : Message}

section Dispatch

variable (found : w.record? slot = some a) (now : Instant) (next : Nat) (k : Unit → Program (World γ) Event Proc)
include found

theorem receiveRequest_invalid (invalid : a.state = .invalid) :
    (receiveRequest m slot k).settle now next w =
      (redirect m a.forwardTo "request for invalid activation" k).settle now next w := by
  unfold receiveRequest
  rw [Async.Runs.settle_bind (runs_record? slot now w), found]
  simp only [invalid, BEq.rfl, if_true]
  rfl

/-- A request that the record accepts starts its turn. -/
theorem receiveRequest_accepted (valid : a.state ≠ .invalid)
    (accepts : a.mayAccept m a.grainType.reentrant = true) :
    (receiveRequest m slot k).settle now next w = (handleIncoming slot m k).settle now next w := by
  unfold receiveRequest
  rw [Async.Runs.settle_bind (runs_record? slot now w), found]
  simp only [beq_iff_eq, valid, accepts, if_false, if_true]
  rfl

section Refused

variable (valid : a.state ≠ .invalid) (refused : a.mayAccept m a.grainType.reentrant = false)
include valid refused

theorem receiveRequest_refused :
    (receiveRequest m slot k).settle now next w =
      ((if (w.config.messaging.performDeadlockDetection && !a.grainType.reentrant &&
            m.callChainContains a.id) = true then
          replyDeadlock m a
        else
          match a.checkOverloaded with
          | .error limit => reject m .overloaded limit.message
          | .ok () =>
            match a.enqueue m with
            | .ok a => Async.modify fun w => w.putRecord slot a
            | .error _ => pure ()) k).settle now next w := by
  unfold receiveRequest
  rw [Async.Runs.settle_bind (runs_record? slot now w), found]
  simp only [beq_iff_eq, valid, refused, if_false, Bool.false_eq_true]
  rw [Async.Runs.settle_bind (Async.runs_get now w)]
  split
  · rfl
  · rfl

/-- A request that may not start now and names the record on its chain, where detection
applies, is answered with a deadlock fault, and nothing else happens. -/
theorem receiveRequest_deadlock
    (cycle : w.config.messaging.performDeadlockDetection = true ∧ a.grainType.reentrant = false ∧
      m.callChainContains a.id = true) :
    (receiveRequest m slot k).settle now next w = (replyDeadlock m a k).settle now next w := by
  obtain ⟨detect, notReentrant, onChain⟩ := cycle
  rw [receiveRequest_refused found now next k valid refused]
  simp only [detect, notReentrant, onChain, Bool.not_false, Bool.and_self, if_true]

section Acyclic

variable (acyclic : ¬(w.config.messaging.performDeadlockDetection = true ∧
  a.grainType.reentrant = false ∧ m.callChainContains a.id = true))
include acyclic

/-- Any other request that may not start now waits in the mailbox, unless the record is
overloaded. -/
theorem receiveRequest_queued (fits : a.checkOverloaded = .ok ()) :
    (receiveRequest m slot k).settle now next w =
      (k ()).settle now next (w.putRecord slot { a with mailbox := a.mailbox ++ [m] }) := by
  rw [receiveRequest_refused found now next k valid refused]
  have free : (w.config.messaging.performDeadlockDetection && !a.grainType.reentrant &&
      m.callChainContains a.id) = false := by
    simpa using acyclic
  simp only [free, Bool.false_eq_true, if_false, fits, Activation.enqueue_of_valid valid]
  rfl

theorem receiveRequest_overloaded {limit : LimitExceeded} (overloaded : a.checkOverloaded = .error limit) :
    (receiveRequest m slot k).settle now next w =
      (reject m .overloaded limit.message k).settle now next w := by
  rw [receiveRequest_refused found now next k valid refused]
  have free : (w.config.messaging.performDeadlockDetection && !a.grainType.reentrant &&
      m.callChainContains a.id) = false := by
    simpa using acyclic
  simp only [free, Bool.false_eq_true, if_false, overloaded]

end Acyclic

end Refused

end Dispatch

end SiloM

variable {γ : Type}

/-- The context of the turn of `m` on `a`: its chain is the chain of `m` followed by an entry
for `a` and the method called. -/
def turnContext (a : Activation) (m : Message) (slot : Nat) : GrainContext :=
  ⟨a.address, m.callChain ++ [⟨a.grain, a.id, m.interfaceId, m.methodId⟩], slot⟩

theorem turnContext_names (a : Activation) (m : Message) (slot : Nat) (m' : Message)
    (flags : MessageFlags) : ((turnContext a m slot).outgoing m' flags).callChainContains a.id := by
  simp [turnContext, GrainContext.outgoing, Message.callChainContains]

/-- Deadlock detection never lets a request wait on its own caller. A request that may not start
on a record that is not invalid is answered with a deadlock fault carrying its chain and the
record's entry, and neither started nor queued, exactly when detection is on, the grain type is
not reentrant and the record is on the chain; otherwise it is queued unless the record is
overloaded, and a request the record accepts starts. Every message a turn sends names the
turn's activation on its chain. And along every run of a silo, no request waits on an activation
on its own chain where detection applies. -/
theorem deadlock_detection_prevents_waiting_cycles [Grains γ] (grains : Grains.Sound γ) :
    (∀ (w : World γ) slot a m, w.record? slot = some a → a.state ≠ .invalid →
      ∀ now next k,
        (a.mayAccept m a.grainType.reentrant = true →
          (SiloM.receiveRequest m slot k).settle now next w =
            (SiloM.handleIncoming slot m k).settle now next w) ∧
        (a.mayAccept m a.grainType.reentrant = false →
          (w.config.messaging.performDeadlockDetection = true ∧ a.grainType.reentrant = false ∧
            m.callChainContains a.id = true) →
          (SiloM.receiveRequest m slot k).settle now next w =
            (if m.direction = .request then
              SiloM.sendResponse m
                (.fault (.deadlock (m.callChain ++ [⟨a.grain, a.id, m.interfaceId, m.methodId⟩]))) k
            else k ()).settle now next w) ∧
        (a.mayAccept m a.grainType.reentrant = false →
          ¬(w.config.messaging.performDeadlockDetection = true ∧ a.grainType.reentrant = false ∧
            m.callChainContains a.id = true) →
          (a.checkOverloaded = .ok () →
            (SiloM.receiveRequest m slot k).settle now next w =
              (k ()).settle now next (w.putRecord slot { a with mailbox := a.mailbox ++ [m] })) ∧
          ∀ limit, a.checkOverloaded = .error limit →
            (SiloM.receiveRequest m slot k).settle now next w =
              (SiloM.reject m .overloaded limit.message k).settle now next w)) ∧
    (∀ a m slot (m' : Message) flags, ((turnContext a m slot).outgoing m' flags).callChainContains a.id) ∧
    (∀ (program : SiloM γ Unit), SiloM.Sound program →
      ∀ steps rounds (x x' : Executor (World γ) Event Proc) out,
        x.TasksKeep (fun _ => True) World.Changes → x.world.NoCycleWaits →
        Executor.start Proc.run steps rounds x program.toProgram = (x', out) →
        x'.world.NoCycleWaits) := by
  refine ⟨fun w slot a m found valid now next k => ⟨?_, ?_, ?_⟩, turnContext_names,
    fun program sound steps rounds x x' out tasks holds run =>
      noCycleWaits_invariant.start grains sound steps rounds x tasks holds run⟩
  · exact SiloM.receiveRequest_accepted found now next k valid
  · intro refused cycle
    rw [SiloM.receiveRequest_deadlock found now next k valid refused cycle]
    unfold SiloM.replyDeadlock
    cases direction : m.direction <;> rfl
  · intro refused acyclic
    exact ⟨SiloM.receiveRequest_queued found now next k valid refused acyclic,
      fun _ overloaded => SiloM.receiveRequest_overloaded found now next k valid refused acyclic overloaded⟩

open Scenario in
/-- After one round of `counterCalls`, the plain call waits on counter `a`, whose grain type is
not reentrant, with deadlock detection on: no waiting request names its own activation. -/
theorem counter_calls_wait_acyclic :
    (counterRun 1).1.world.config.messaging.performDeadlockDetection = true ∧
      ((counterRun 1).1.world.record? 0).map (fun a => (a.grainType.reentrant, a.mailbox.length)) =
        some (false, 1) ∧
      (counterRun 1).1.world.NoCycleWaits :=
  ⟨by decide +kernel, by decide +kernel, (deadlock_detection_prevents_waiting_cycles bench_sound).2.2
    counterCalls calm_counterCalls.sound 1000 1 _ _ _ (fun _ member => (List.not_mem_nil member).elim)
    (counterSilo_each _) (counterRun_eq 1)⟩

end ActorSilo
