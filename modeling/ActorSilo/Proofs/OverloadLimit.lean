import ActorSilo.Proofs.DeadlockDetection

/-! # The overload limit of an activation

A request that may not start now and closes no refused cycle is checked against the overload
limit, counting the requests waiting, running and being dispatched; it is refused as overloaded
above a hard limit that is not zero, and waits otherwise. The soft limit refuses nothing, and an
invalid activation redirects the request unchecked. The dispatcher counts the request it hands
over (`SiloM.dispatchRequest`), so along any run no mailbox holds more than its hard limit
(`mailboxWithin_invariant`).

**Main result:** `dispatchRequest_refuses_over_hard_limit`.
-/

namespace ActorSilo

namespace Activation

/-! ## What the changes of a record keep of its limit -/

section Frame

variable (a : Activation)

@[simp] theorem setState_limit (s : ActivationState) : (a.setState s).1.limit = a.limit := by
  unfold setState; split <;> rfl

@[simp] theorem recordRunning_limit (m : Message) (now : Instant) :
    (a.recordRunning m now).limit = a.limit := by
  unfold recordRunning; split <;> rfl

@[simp] theorem dequeue_limit : a.dequeue.2.limit = a.limit := by
  unfold dequeue; split <;> rfl

@[simp] theorem resetRunning_limit (id : Nat) (now : Instant) :
    (a.resetRunning id now).2.limit = a.limit := by
  obtain ⟨_, _, _, shape, _⟩ := a.resetRunning_eq id now
  rw [shape]

@[simp] theorem takeOnIdle_limit : a.takeOnIdle.2.limit = a.limit := by
  unfold takeOnIdle; split <;> rfl

@[simp] theorem delayDeactivation_limit (d : Duration) (now : Instant) :
    (a.delayDeactivation d now).limit = a.limit := by
  unfold delayDeactivation; split
  · rfl
  · split <;> rfl

@[simp] theorem startShuttingDown_limit (reason : DeactivationReason) :
    (a.startShuttingDown reason).1.limit = a.limit := by
  unfold startShuttingDown; split <;> rfl

theorem enqueue_limit {m : Message} {b : Activation} (queued : a.enqueue m = .ok b) :
    b.limit = a.limit := by
  unfold enqueue at queued
  split at queued
  · cases queued
  · cases queued
    rfl

end Frame

/-! ## The check -/

section Check

variable {a : Activation} {n : Nat}

theorem checkCount_of_over (above : 0 < a.limit.hard ∧ a.limit.hard < n) :
    a.checkCount n = .error ⟨a.limit.name, n, a.limit.hard⟩ := by
  unfold checkCount
  rw [if_pos (by simp [above.1, above.2])]

theorem checkCount_of_within (within : ¬(0 < a.limit.hard ∧ a.limit.hard < n)) :
    a.checkCount n = .ok () := by
  unfold checkCount
  rw [if_neg (by simpa using within)]

theorem checkOverloaded_ne_ok_iff :
    a.checkOverloaded ≠ .ok () ↔
      0 < a.limit.hard ∧ a.limit.hard < a.requestCount + a.dispatching := by
  constructor
  · intro refused
    by_contra within
    exact refused (checkCount_of_within within)
  · intro above
    unfold checkOverloaded
    rw [checkCount_of_over above]
    intro same
    cases same

theorem checkOverloaded_within (fits : a.checkOverloaded = .ok ()) (hard : 0 < a.limit.hard) :
    a.requestCount + a.dispatching ≤ a.limit.hard := by
  by_contra above
  exact checkOverloaded_ne_ok_iff.mpr ⟨hard, Nat.lt_of_not_le above⟩ fits

theorem checkOverloaded_soft (soft : Nat) :
    { a with limit := { a.limit with soft } }.checkOverloaded = a.checkOverloaded := rfl

end Check

/-! ## What a step does to the mailbox -/

variable {config : SiloConfig} {a b : Activation}

theorem Step.limit (step : a.Step config b) : b.limit = a.limit := by
  cases step with
  | enqueue _ _ _ _ queued => exact enqueue_limit a queued
  | activating moved =>
    have same := setState_limit a .activating
    rw [moved] at same
    exact same
  | _ => simp [addOnIdle, Activation.resetKeepAlive, takePending]

theorem Step.mailbox_length (step : a.Step config b) :
    b.mailbox.length ≤ a.mailbox.length ∨
      b.mailbox.length = a.mailbox.length + 1 ∧ a.checkOverloaded = .ok () ∧ 0 < a.dispatching := by
  cases step with
  | enqueue _ _ fits counted queued =>
    right
    rw [(enqueue_mailbox queued).1, List.length_append, List.length_singleton]
    exact ⟨rfl, fits, counted⟩
  | dequeue _ _ =>
    left
    rw [dequeue_mailbox, List.length_tail]
    exact Nat.sub_le _ _
  | finish id now =>
    left
    exact Nat.le_of_eq (congrArg List.length (resetRunning_state a id now).2.1)
  | activating moved =>
    left
    have same := setState_mailbox a .activating
    rw [moved] at same
    exact Nat.le_of_eq (congrArg List.length same)
  | _ =>
    left
    simp [addOnIdle, Activation.resetKeepAlive]

/-- The mailbox of a record with a hard limit holds at most the limit. -/
def MailboxWithin (a : Activation) : Prop :=
  0 < a.limit.hard → a.mailbox.length ≤ a.limit.hard

theorem enqueue_within_hard {m : Message} (fits : a.checkOverloaded = .ok ())
    (hard : 0 < a.limit.hard) (counted : 0 < a.dispatching) :
    (a.mailbox ++ [m]).length ≤ a.limit.hard := by
  have within := checkOverloaded_within fits hard
  simp only [requestCount, waitingCount] at within
  rw [List.length_append, List.length_singleton]
  omega

end Activation

/-- No step of a record and no move of its ticket takes its mailbox past its hard limit: a request
waits only when the check counts the waiting, running and dispatched requests, itself among
them, within the limit. -/
theorem mailboxWithin_invariant : RecordInvariant fun _ a => a.MailboxWithin where
  make _ _ _ _ _ _ := fun _ => Nat.zero_le _
  step {config a b} step holds := by
    intro hard
    rw [step.limit] at hard ⊢
    rcases step.mailbox_length with shorter | ⟨longer, fits, counted⟩
    · exact Nat.le_trans shorter (holds hard)
    · have within := Activation.checkOverloaded_within fits hard
      simp only [Activation.requestCount, Activation.waitingCount] at within
      omega
  reticket {config a b} moved holds := by
    rw [← moved]
    exact holds

/-! ## What the dispatcher does with a request -/

namespace SiloM

variable {γ : Type} {w : World γ} {slot : Nat} {a : Activation} {m : Message}

section Dispatch

variable (found : w.record? slot = some a) (now : Instant) (next : Nat)
  (k : Unit → Program (World γ) Event Proc)
include found

theorem dispatchRequest_counts :
    (dispatchRequest m slot k).settle now next w =
      (receiveRequest m slot fun _ =>
        changeRecord slot (fun _ b => { b with dispatching := b.dispatching - 1 }) k).settle now next
        (w.putRecord slot { a with dispatching := a.dispatching + 1 }) := by
  unfold dispatchRequest
  rw [Async.Runs.settle_bind (runs_changeRecord found _ now)]
  rfl

section Checked

variable (valid : a.state ≠ .invalid) (refused : a.mayAccept m a.grainType.reentrant = false)
  (acyclic : ¬(w.config.messaging.performDeadlockDetection = true ∧
    a.grainType.reentrant = false ∧ m.callChainContains a.id = true))
include valid refused acyclic

theorem receiveRequest_over_hard_limit
    (above : 0 < a.limit.hard ∧ a.limit.hard < a.requestCount + a.dispatching) :
    (receiveRequest m slot k).settle now next w =
      (reject m .overloaded
        (LimitExceeded.message ⟨a.limit.name, a.requestCount + a.dispatching, a.limit.hard⟩)
        k).settle now next w :=
  receiveRequest_overloaded found now next k valid refused acyclic (Activation.checkCount_of_over above)

theorem receiveRequest_within_hard_limit
    (within : ¬(0 < a.limit.hard ∧ a.limit.hard < a.requestCount + a.dispatching)) :
    (receiveRequest m slot k).settle now next w =
      (k ()).settle now next (w.putRecord slot { a with mailbox := a.mailbox ++ [m] }) :=
  receiveRequest_queued found now next k valid refused acyclic
    (Activation.checkCount_of_within within)

end Checked

end Dispatch

end SiloM

variable {γ : Type}

/-- The overload limit of an activation. The check refuses exactly when the requests waiting,
running and being dispatched are more than a hard limit that is not zero, and it does not read the
soft limit. The dispatcher counts the request it hands over as one being dispatched. A request
handed to a record is sent on or refused as for an invalid activation when the record is invalid,
whatever its count; it starts when the record accepts it; it is answered with a deadlock when it
closes a cycle that detection refuses; and otherwise it is refused as overloaded exactly above the
hard limit, and waits in the mailbox otherwise, which then stays within the hard limit when the
dispatcher counted it. Along every run of a silo, the mailbox of a record holds at most its hard
limit. -/
theorem dispatchRequest_refuses_over_hard_limit [Grains γ] (grains : Grains.Sound γ) :
    (∀ (a : Activation) (soft : Nat),
      (a.checkOverloaded ≠ .ok () ↔
        0 < a.limit.hard ∧ a.limit.hard < a.requestCount + a.dispatching) ∧
      { a with limit := { a.limit with soft } }.checkOverloaded = a.checkOverloaded) ∧
    (∀ (w : World γ) slot a m now next k, w.record? slot = some a →
      (SiloM.dispatchRequest m slot k).settle now next w =
        (SiloM.receiveRequest m slot fun _ =>
          SiloM.changeRecord slot (fun _ b => { b with dispatching := b.dispatching - 1 }) k).settle
          now next (w.putRecord slot { a with dispatching := a.dispatching + 1 })) ∧
    (∀ (w : World γ) slot a m now next k, w.record? slot = some a →
      (a.state = .invalid →
        (SiloM.receiveRequest m slot k).settle now next w =
          (SiloM.redirect m a.forwardTo "request for invalid activation" k).settle now next w) ∧
      (a.state ≠ .invalid → a.mayAccept m a.grainType.reentrant = true →
        (SiloM.receiveRequest m slot k).settle now next w =
          (SiloM.handleIncoming slot m k).settle now next w) ∧
      (a.state ≠ .invalid → a.mayAccept m a.grainType.reentrant = false →
        (w.config.messaging.performDeadlockDetection = true ∧ a.grainType.reentrant = false ∧
          m.callChainContains a.id = true) →
        (SiloM.receiveRequest m slot k).settle now next w =
          (SiloM.replyDeadlock m a k).settle now next w) ∧
      (a.state ≠ .invalid → a.mayAccept m a.grainType.reentrant = false →
        ¬(w.config.messaging.performDeadlockDetection = true ∧ a.grainType.reentrant = false ∧
          m.callChainContains a.id = true) →
        (0 < a.limit.hard ∧ a.limit.hard < a.requestCount + a.dispatching →
          (SiloM.receiveRequest m slot k).settle now next w =
            (SiloM.reject m .overloaded
              (LimitExceeded.message ⟨a.limit.name, a.requestCount + a.dispatching, a.limit.hard⟩)
              k).settle now next w) ∧
        (¬(0 < a.limit.hard ∧ a.limit.hard < a.requestCount + a.dispatching) →
          (SiloM.receiveRequest m slot k).settle now next w =
            (k ()).settle now next (w.putRecord slot { a with mailbox := a.mailbox ++ [m] }) ∧
          (0 < a.limit.hard → 0 < a.dispatching → (a.mailbox ++ [m]).length ≤ a.limit.hard)))) ∧
    (∀ (program : SiloM γ Unit), SiloM.Sound program →
      ∀ steps rounds (x x' : Executor (World γ) Event Proc) out,
        x.TasksKeep (fun _ => True) World.Changes → x.world.Each (fun _ a => a.MailboxWithin) →
        Executor.start Proc.run steps rounds x program.toProgram = (x', out) →
        x'.world.Each (fun _ a => a.MailboxWithin)) := by
  refine ⟨fun a soft => ⟨Activation.checkOverloaded_ne_ok_iff, Activation.checkOverloaded_soft soft⟩,
    fun w slot a m now next k found => SiloM.dispatchRequest_counts found now next k,
    fun w slot a m now next k found =>
      ⟨SiloM.receiveRequest_invalid found now next k, SiloM.receiveRequest_accepted found now next k,
        SiloM.receiveRequest_deadlock found now next k, fun valid refused acyclic => ⟨?_, ?_⟩⟩,
    fun program sound steps rounds x x' out tasks holds run =>
      mailboxWithin_invariant.start grains sound steps rounds x tasks holds run⟩
  · exact SiloM.receiveRequest_over_hard_limit found now next k valid refused acyclic
  · -- a request that waits was counted within the limit
    intro within
    have fits : a.checkOverloaded = .ok () := Activation.checkCount_of_within within
    exact ⟨SiloM.receiveRequest_within_hard_limit found now next k valid refused acyclic within,
      Activation.enqueue_within_hard fits⟩

open Scenario in
/-- After one round of `counterCalls`, the plain call waits in the mailbox of counter `a` behind
the slow one, and the mailbox stays within the hard limit. -/
theorem counter_calls_mailbox_within :
    ((counterRun 1).1.world.record? 0).map (fun a => (a.mailbox.length, a.limit.hard)) =
        some (1, 5000) ∧
      (counterRun 1).1.world.Each (fun _ a => a.MailboxWithin) :=
  ⟨by decide +kernel, (dispatchRequest_refuses_over_hard_limit bench_sound).2.2.2 counterCalls
    calm_counterCalls.sound 1000 1 _ _ _ (fun _ member => (List.not_mem_nil member).elim)
    (counterSilo_each _) (counterRun_eq 1)⟩

end ActorSilo
