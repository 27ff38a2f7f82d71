import ActorSilo.Proofs.CalmChanges

/-! # Sending, the catalog, the client and the dispatcher are calm

Every function of the silo's messaging changes the world only by the changes `World.Change`
lists, and all but two leave the lives of activations alone (`SiloM.Calm`). Scheduling a
collection is a `reticket` change; the dispatcher starts a turn only where the record accepts the
request and queues one only where it may not start, closes no refused cycle, fits the limit and
is counted by the dispatcher (`calmTriple_receiveRequest`, `calm_dispatchRequest`). The catalog
making a record (`sound_getOrCreate`, hence `sound_receiveMessage`) and a started activation
becoming ready (`sound_onActivateDeactivateCompleted`) are sound.
-/

namespace ActorSilo

namespace Collector

theorem add_reticketed (c : Collector) (a : Activation) (t : Nat) : a.Reticketed (c.add a t).2 :=
  rfl

theorem removeFrom_reticketed (c : Collector) (a : Activation) (t : Nat) :
    a.Reticketed (c.removeFrom a t).2.1 := by
  unfold removeFrom
  split
  · split
    · exact rfl
    · exact .refl a
  · exact .refl a

theorem cancel_reticketed (c : Collector) (a : Activation) : a.Reticketed (c.cancel a).2.1 := by
  unfold cancel
  split
  · exact .refl a
  · split
    · exact .refl a
    · split
      · exact .refl a
      · exact removeFrom_reticketed c a _

/-- Moving a record on in the wheel moves only its ticket. -/
theorem reschedule_reticketed {c : Collector} {a : Activation} {timeout : Duration} {now : Instant}
    {r : Collector × Activation × Bool} (moved : c.reschedule a timeout now = .ok r) :
    a.Reticketed r.2.1 := by
  unfold reschedule at moved
  split at moved
  · cases moved
    exact .refl a
  · split at moved
    · cases moved
      exact rfl
    · split at moved
      · cases moved
        exact rfl
      · rename_i old _ _
        -- past this point the old bucket is given up, whatever the new ticket
        have taken := removeFrom_reticketed c a old
        rcases ticket : c.ticketFor c.nextTicket timeout now with _ | (_ | new)
        all_goals rw [ticket] at moved
        · cases moved
        · cases moved
          exact taken.trans rfl
        · dsimp only [bind, Except.bind] at moved
          split at moved
          · cases moved
            exact .refl a
          · split at moved
            · cases moved
              exact taken.trans rfl
            · cases moved
              exact taken.trans (add_reticketed (c.removeFrom a old).1 _ new)

theorem schedule_reticketed {c : Collector} {a : Activation} {timeout : Duration} {now : Instant}
    {r : Collector × Activation} (placed : c.schedule a timeout now = .ok (.ok r)) :
    a.Reticketed r.2 := by
  unfold schedule at placed
  split at placed
  · cases placed
  · split at placed
    · cases placed
      exact .refl a
    · split at placed
      · cases placed
      · rcases ticket : c.ticketFor c.nextTicket timeout now with _ | (_ | t)
        all_goals rw [ticket] at placed
        · cases placed
        · cases placed
        · cases placed
          exact add_reticketed c a t

end Collector


namespace SiloM

variable {γ : Type}

/-! ## Sending -/

theorem calm_transport (m : Message) : Calm (transport m : SiloM γ Unit) := by
  refine calm_get.bind fun _ => calm_ite ?_ ?_
  · exact Calm.bind (calm_modify fun _ => .outside rfl rfl rfl rfl rfl rfl rfl rfl) fun _ =>
      calm_notify _
  · exact calm_modify fun _ => .outside rfl rfl rfl rfl rfl rfl rfl rfl

theorem calm_sendMessage (m : Message) : Calm (sendMessage m : SiloM γ Unit) := by
  unfold sendMessage
  split
  · split
    · exact calm_transport m
    · exact calm_pure ()
  · split
    · exact calm_transport m
    · exact calm_launch fun _ => Proc.noConfusion

theorem calm_sendResponse (request : Message) (r : Response) :
    Calm (sendResponse request r : SiloM γ Unit) :=
  calm_sendMessage _

theorem calm_reject (m : Message) (kind : RejectionKind) (reason : String) :
    Calm (reject m kind reason : SiloM γ Unit) := by
  unfold reject
  split
  · exact calm_sendMessage _
  · exact calm_pure ()

theorem calm_tryResend (m : Message) : Calm (tryResend m : SiloM γ (Option Message)) := by
  refine calm_get.bind fun w => ?_
  split
  · exact calm_pure _
  · exact (calm_sendMessage _).bind fun _ => calm_pure _

theorem calm_tryForward (m : Message) (target : Option ActivationAddress) :
    Calm (tryForward m target : SiloM γ Bool) := by
  refine calm_get.bind fun w => ?_
  split
  · exact calm_pure _
  · exact (calm_sendMessage _).bind fun _ => calm_pure _

theorem calm_redirect (m : Message) (forwardTo : Option ActivationAddress) (reason : String) :
    Calm (redirect m forwardTo reason : SiloM γ Unit) := by
  unfold redirect
  cases forwardTo with
  | none => exact calm_reject _ _ _
  | some target =>
    exact (calm_tryForward _ _).bind fun _ => calm_ite (calm_pure ()) (calm_reject _ _ _)

theorem calm_addressMessage (m : Message) : Calm (addressMessage m : SiloM γ Unit) := by
  refine calm_get.bind fun w => ?_
  dsimp only
  -- the strategy is the message's own, the type's, the fallback for a client, or none; the three
  -- ways of finding it go on with the same code
  split
  rotate_left
  split
  all_goals
    refine (calm_pure _).bind fun strategy => ?_
    cases strategy with
    | none => exact calm_reject _ _ _
    | some strategy =>
      refine calm_freshId.bind fun fresh => calm_get.bind fun w' => ?_
      split
      · exact calm_transport _
      · exact calm_reject _ _ _

/-! ## The catalog -/

theorem calm_scheduleCollection (slot : Nat) : Calm (scheduleCollection slot : SiloM γ Unit) := by
  refine CalmTriple.bind (calmTriple_record? slot) fun r => ?_
  cases r with
  | none => exact (calm_pure ()).triple
  | some a =>
    -- from here on the record read is the record in the slot
    refine CalmTriple.mono (P := fun w : World γ => w.record? slot = some a) ?_
      (fun _ h => h.2.symm) fun _ _ h => h
    dsimp only
    have put : ∀ {b : Activation} (c : Collector), a.Reticketed b →
        CalmTriple (fun w : World γ => w.record? slot = some a)
          (Async.modify fun w => { w.putRecord slot b with collector := c }) fun _ _ => True :=
      fun c moved => calmTriple_modify fun _ found => World.Calm.reticket found moved c
    split
    · exact (calm_pure ()).triple
    · refine CalmTriple.bind calmTriple_read fun w => CalmTriple.bind calmTriple_now fun now => ?_
      split
      · exact (calm_panic _).triple
      · rename_i moved
        exact put _ (Collector.reschedule_reticketed moved)
      · rename_i moved
        split
        · exact (calm_panic _).triple
        · rename_i placed
          exact put _ ((Collector.reschedule_reticketed moved).trans
            (Collector.schedule_reticketed placed))
        · exact put _ (Collector.reschedule_reticketed moved)

theorem calm_rescheduleCollection (slot : Nat) :
    Calm (rescheduleCollection slot : SiloM γ Unit) := by
  refine CalmTriple.bind (calmTriple_record? slot) fun r => ?_
  cases r with
  | none => exact (calm_pure ()).triple
  | some a =>
    refine CalmTriple.mono (P := fun w : World γ => w.record? slot = some a) ?_
      (fun _ h => h.2.symm) fun _ _ h => h
    dsimp only
    split
    · exact (calm_pure ()).triple
    · refine CalmTriple.bind calmTriple_read fun w => CalmTriple.bind calmTriple_now fun now => ?_
      split
      · exact (calm_panic _).triple
      · rename_i moved
        exact calmTriple_modify fun _ found =>
          World.Calm.reticket found (Collector.reschedule_reticketed moved) _

/-- The catalog makes a record only for an id it does not hold: the look-up that found none is
made in the same stretch as the record. -/
theorem sound_getOrCreate (target : ActivationAddress) (placement : Option PlacementStrategy) :
    Sound (getOrCreate target placement : SiloM γ (Except CatalogError (Nat × Option Nat))) := by
  refine Async.Triple.bind triple_get fun w => ?_
  dsimp only
  -- the grain type is looked up first: an unknown type is refused at once, and the two ways of
  -- finding it go on with the same code
  split
  split
  rotate_left
  · exact (sound_pure _).triple
  all_goals
    refine Async.Triple.bind (triple_pure _) fun grainType => ?_
    split
    · exact (calm_rescheduleCollection _).sound.triple.bind fun _ => (sound_pure _).triple
    · rename_i missing
      cases grainType with
      | none => exact (sound_pure _).triple
      | some t =>
        refine Async.Triple.bind triple_now fun now => Async.Triple.bind
          (triple_update fun _ w' current => ?_) fun slot => ?_
        · obtain ⟨_, rfl⟩ := current
          exact .single (.create rfl (Option.eq_none_iff_forall_ne_some.mpr missing))
        · exact Async.Triple.bind (sound_spawn (sound_call _)).triple fun _ => (sound_pure _).triple

theorem calm_unregisterLocally (slot : Nat) : Calm (unregisterLocally slot : SiloM γ Unit) := by
  refine calm_modify fun w => ?_
  cases found : w.record? slot with
  | none => exact .refl w
  | some a =>
    have left := World.Calm.leave found
    dsimp only
    generalize removal : w.registry.remove a = p at left ⊢
    obtain ⟨r, removed⟩ := p
    dsimp only at left ⊢
    split
    · have moved := Collector.cancel_reticketed w.collector a
      generalize cancelled : w.collector.cancel a = q at moved ⊢
      obtain ⟨c, b, _⟩ := q
      refine left.trans (World.Calm.reticket ?_ moved c)
      exact found
    · exact left

theorem calm_notifyDeactivated (slot : Nat) : Calm (notifyDeactivated slot : SiloM γ Unit) :=
  Calm.bind (calm_changeRecord (fun _ _ _ _ => .deactivated) fun _ _ => rfl) fun _ => calm_notify _

theorem calm_waitDeactivated (slot : Nat) : Calm (waitDeactivated slot : SiloM γ Unit) :=
  calm_waitFor _ _

theorem calm_invalidateCache (g : GrainId) : Calm (invalidateCache g : SiloM γ Unit) :=
  calm_modify fun _ => .directory (.invalidate g)

theorem calm_unregisterAddress (a : ActivationAddress) :
    Calm (unregisterAddress a : SiloM γ Unit) := by
  refine calm_modify fun w => ?_
  split
  · exact .directory (.unregister a)
  · exact .refl w

/-! ## The client

The callbacks of outstanding requests live in the client's table; storing, dropping and
answering one changes nothing outside it. -/

theorem calm_callbacks (w : World γ) (callbacks : List Callback) (replies : List (Nat × Message)) :
    w.Calm { w with callbacks, replies } :=
  .outside rfl rfl rfl rfl rfl rfl rfl rfl

theorem calm_callbackGet (id : Nat) :
    Calm ((callbackSite : CallbackSite (World γ) Event Proc).get? id) :=
  calm_get.bind fun _ => calm_pure _

theorem calm_callbackStore (cb : Callback) :
    Calm (Async.modify ((callbackSite : CallbackSite (World γ) Event Proc).store cb)) :=
  calm_modify fun w => calm_callbacks w _ w.replies

theorem calm_callbackResend (id : Nat) :
    Calm ((callbackSite : CallbackSite (World γ) Event Proc).resend id) := by
  refine calm_get.bind fun w => ?_
  split
  · refine (calm_tryResend _).bind fun r => ?_
    cases r with
    | none => exact calm_pure _
    | some m =>
      refine Calm.bind (calm_modify fun w => ?_) fun _ => calm_pure _
      split
      · exact calm_callbacks _ _ _
      · exact .refl _
  · exact calm_pure _

theorem calm_callbackUnregister (id : Nat) :
    Calm ((callbackSite : CallbackSite (World γ) Event Proc).unregister id) :=
  calm_modify fun w => calm_callbacks w _ w.replies

theorem calm_callbackDeliver (id : Nat) (m : Message) :
    Calm ((callbackSite : CallbackSite (World γ) Event Proc).deliver id m) :=
  Calm.bind (calm_modify fun w => calm_callbacks w w.callbacks _) fun _ => calm_notify _

theorem calm_complete (cb : Callback) :
    Calm ((callbackSite : CallbackSite (World γ) Event Proc).complete cb) := by
  refine Calm.bind (calm_callbackStore _) fun _ => ?_
  split
  · exact (calm_cancel _).bind fun _ => calm_pure _
  · exact calm_pure _

theorem calm_onTimeout (id : Nat) :
    Calm ((callbackSite : CallbackSite (World γ) Event Proc).onTimeout id) := by
  refine (calm_callbackGet id).bind fun r => ?_
  cases r with
  | none => exact calm_pure ()
  | some cb =>
    dsimp only
    refine calm_ite (calm_pure ()) (calm_ite ((calm_callbackResend id).bind fun _ =>
      calm_ite (calm_pure ()) ?_) ?_)
    -- whether or not resending was tried, the callback is read again and completed
    all_goals
      refine (calm_callbackGet id).bind fun r => ?_
      cases r with
      | none => exact calm_pure ()
      | some cb =>
        exact calm_now.bind fun _ => (calm_complete cb).bind fun _ =>
          (calm_callbackUnregister _).bind fun _ => calm_ite (calm_callbackDeliver _ _) (calm_pure ())

theorem calm_respond (id : Nat) (response : Message) :
    Calm ((callbackSite : CallbackSite (World γ) Event Proc).respond id response) := by
  refine (calm_callbackGet id).bind fun r => ?_
  cases r with
  | none => exact calm_pure ()
  | some cb =>
    dsimp only
    refine calm_ite (calm_pure ()) (calm_ite ((calm_callbackResend id).bind fun _ =>
      calm_ite (calm_pure ()) ?_) ?_)
    all_goals
      refine (calm_callbackGet id).bind fun r => ?_
      cases r with
      | none => exact calm_pure ()
      | some cb =>
        exact (calm_complete cb).bind fun _ => (calm_callbackUnregister _).bind fun _ =>
          calm_ite (calm_callbackDeliver _ _) (calm_pure ())

theorem calmTask_tickRound (id : Nat) (due : Instant) (period : Duration) :
    CalmTask ((callbackSite : CallbackSite (World γ) Event Proc).tickRound id due period) := by
  refine (calm_sleepUntil due).task.bind fun _ => calm_now.task.bind fun _ => ?_
  refine (calm_callbackGet id).task.bind fun r => ?_
  cases r with
  | none => exact (calm_pure ()).task
  | some _ =>
    refine (calm_onTimeout id).task.bind fun _ => (calm_callbackGet id).task.bind fun r => ?_
    cases r with
    | none => exact (calm_pure ()).task
    | some cb => exact calmTask_ite (calm_pure ()).task (calmTask_call fun _ => Proc.noConfusion)

theorem calmTask_firstTick (id : Nat) (period : Duration) :
    CalmTask ((callbackSite : CallbackSite (World γ) Event Proc).firstTick id period) := by
  refine calm_now.task.bind fun now => ?_
  split
  · extract_lets finish
    exact calmTask_ite ((calm_panic _).task.bind fun _ => calmTask_call fun _ => Proc.noConfusion)
      (calmTask_call fun _ => Proc.noConfusion)
  · exact (calm_panic _).task

theorem calm_startTimer (id : Nat) :
    Calm ((callbackSite : CallbackSite (World γ) Event Proc).startTimer id) := by
  refine (calm_callbackGet id).bind fun r => ?_
  cases r with
  | none => exact calm_pure ()
  | some cb =>
    refine (calm_spawn (calmTask_firstTick _ _)).bind fun task => (calm_callbackGet id).bind fun r => ?_
    cases r with
    | none => exact calm_pure ()
    | some cb =>
      refine calm_ite (calm_cancel task) ((calm_callbackStore _).bind fun _ => ?_)
      split
      · exact calm_cancel _
      · exact calm_pure ()

theorem calm_takeReply (id : Nat) : Calm (takeReply id : SiloM γ (Option Message)) := by
  refine calm_update fun _ w => ?_
  split
  · exact calm_callbacks w w.callbacks _
  · exact .refl w

theorem calm_sendRequest (m : Message) :
    Calm (sendRequest m : SiloM γ (Except RequestError (List UInt8))) := by
  refine calm_get.bind fun w => calm_now.bind fun now => ?_
  extract_lets m' finish
  have finished : ∀ m, Calm (finish m) := by
    intro m
    refine Calm.bind (calm_modify fun w => calm_callbacks w _ w.replies) fun _ => ?_
    refine (calm_startTimer _).bind fun _ => (calm_sendMessage _).bind fun _ => ?_
    refine (calm_waitToTake _ _).bind fun _ => (calm_takeReply _).bind fun r => ?_
    cases r with
    | none => exact calm_pure _
    | some _ => exact calm_pure _
  -- the request keeps its expiry or gets one a response timeout from now; unlike split, cases
  -- leaves the large message out of the motive
  cases m'.expiresAt with
  | some _ => exact (calm_pure _).bind finished
  | none =>
    cases now.after w.config.messaging.responseTimeout with
    | ok _ => exact (calm_pure _).bind finished
    | error _ => exact (calm_panic _).bind finished

theorem calm_sendOneWay (m : Message) : Calm (sendOneWay m : SiloM γ Unit) :=
  calm_get.bind fun _ => calm_sendMessage _

theorem calm_receiveResponse (m : Message) : Calm (receiveResponse m : SiloM γ Unit) := by
  refine calm_ite (calm_pure ()) (calm_get.bind fun w => ?_)
  split
  · exact calm_respond _ _
  · exact calm_pure ()

/-! ## The dispatcher -/

theorem calmTriple_handleIncoming (slot : Nat) (m : Message) :
    CalmTriple (fun w : World γ => ∀ a, w.record? slot = some a → a.mayAccept m a.grainType.reentrant)
      (handleIncoming slot m) fun _ _ => True :=
  CalmTriple.bind (calmTriple_changeRecord (fun _ now _ accepts found => .start now (accepts _ found))
      fun _ _ => Activation.life_recordRunning _ _ _)
    fun _ => Calm.triple (Calm.bind (calm_modify fun _ => .outside rfl rfl rfl rfl rfl rfl rfl rfl)
      fun _ => calm_launch fun _ => Proc.noConfusion)

theorem calm_pumpMailbox (slot : Nat) (fuel : Nat) : Calm (pumpMailbox slot fuel : SiloM γ Unit) := by
  induction fuel with
  | zero => exact calm_pure ()
  | succ fuel pumped =>
    refine CalmTriple.bind (calmTriple_record? slot) fun r => ?_
    cases r with
    | none => exact (calm_pure ()).triple
    | some a =>
      refine CalmTriple.mono (P := fun w : World γ => w.record? slot = some a) ?_
        (fun _ h => h.2.symm) fun _ _ h => h
      dsimp only
      split
      · exact (calm_pure ()).triple
      cases peeked : a.peek? with
      | none => exact (calm_pure ()).triple
      | some next =>
        dsimp only
        split
        · exact (calm_pure ()).triple
        rename_i accepts
        have accepts : a.mayAccept next a.grainType.reentrant := by simpa using accepts
        refine CalmTriple.bind (calmTriple_changeRecord_found (fun _ _ _ => .dequeue peeked accepts)
          fun _ => Activation.life_dequeue a) fun _ => CalmTriple.bind calmTriple_now fun now => ?_
        -- the request taken out is still accepted: taking it changed only the mailbox
        have started : CalmTriple (fun w : World γ => ∃ _ : Instant, w.record? slot = some a.dequeue.2)
            (handleIncoming slot next) fun _ _ => True := by
          refine CalmTriple.mono (calmTriple_handleIncoming slot next) ?_ fun _ _ h => h
          rintro w ⟨_, found⟩ b found'
          rw [found] at found'
          cases found'
          rw [Activation.dequeue_mayAccept, Activation.dequeue_grainType]
          exact accepts
        split
        · exact CalmTriple.bind started fun _ => pumped.triple
        · exact pumped.triple

theorem calm_messagePump (slot : Nat) : Calm (messagePump slot : SiloM γ Unit) := by
  refine (calm_record? slot).bind fun r => ?_
  cases r with
  | none => exact calm_pure ()
  | some a => exact calm_pumpMailbox slot _

theorem calm_runIdleActions (slot : Nat) (actions : List IdleAction) :
    Calm (runIdleActions slot actions : SiloM γ Unit) := by
  refine calm_forM fun act _ => ?_
  cases act with
  | destroy => exact calm_launch fun _ => Proc.noConfusion
  | mark _ => exact calm_pure ()

theorem calm_takeOnIdle (slot : Nat) : Calm (takeOnIdle slot : SiloM γ (List IdleAction)) :=
  calm_withRecord fun _ _ a _ => .inr ⟨.takeOnIdle, Activation.life_takeOnIdle a⟩

theorem calm_onCompletedRequest (slot : Nat) (m : Message) :
    Calm (onCompletedRequest slot m : SiloM γ Unit) :=
  Calm.bind (calm_changeRecord (fun _ now _ _ => .finish m.id now)
      fun now a => Activation.life_resetRunning a m.id now) fun _ =>
    (calm_scheduleCollection slot).bind fun _ => (calm_messagePump slot).bind fun _ =>
      (calm_takeOnIdle slot).bind fun acts => calm_runIdleActions slot acts

/-- A record becomes ready only from activating, as read just before. -/
theorem sound_onActivateDeactivateCompleted (slot : Nat) :
    Sound (onActivateDeactivateCompleted slot : SiloM γ Unit) := by
  refine Async.Triple.bind (triple_record? slot) fun r => ?_
  cases r with
  | none => exact (sound_pure ()).triple
  | some a =>
    have idle : Sound (takeOnIdle slot >>= fun acts => (runIdleActions slot acts : SiloM γ Unit)) :=
      ((calm_takeOnIdle slot).bind fun acts => calm_runIdleActions slot acts).sound
    refine Async.Triple.mono (P := fun w : World γ => w.record? slot = some a) ?_
      (fun _ h => h.2.symm) fun _ _ h => h
    dsimp only
    split
    · rename_i activating
      have ready : Triple (fun w : World γ => w.record? slot = some a)
          (withRecord slot false fun _ a => a.setState .inactive) fun _ _ => True :=
        triple_withRecord fun _ _ b found found' => by
          rw [found] at found'
          cases found'
          exact .inr (.ready (by simpa using activating))
      exact Async.Triple.bind ready fun _ => Sound.triple (sound_ite
        ((calm_scheduleCollection slot).bind fun _ => (calm_messagePump slot).bind fun _ =>
          (calm_takeOnIdle slot).bind fun acts => calm_runIdleActions slot acts).sound idle)
    · exact idle.triple

theorem calm_replyDeadlock (m : Message) (a : Activation) :
    Calm (replyDeadlock m a : SiloM γ Unit) :=
  calm_ite (calm_sendResponse _ _) (calm_pure ())

/-- A request starts only where the record accepts it, and waits in the mailbox only where the
record does not accept it, it closes no cycle that deadlock detection refuses, the record is not
overloaded and counts the request as one being handed over: each is read off the record and the
configuration in the stretch that acts. -/
theorem calmTriple_receiveRequest (m : Message) (slot : Nat) :
    CalmTriple (fun w : World γ => ∀ a, w.record? slot = some a → 0 < a.dispatching)
      (receiveRequest m slot) fun _ _ => True := by
  refine CalmTriple.bind (calmTriple_record? slot) fun r => ?_
  cases r with
  | none => exact (calm_pure ()).triple
  | some a =>
    refine CalmTriple.mono (P := fun w : World γ => w.record? slot = some a ∧ 0 < a.dispatching) ?_
      (fun _ h => ⟨h.2.symm, h.1 a h.2.symm⟩) fun _ _ h => h
    dsimp only
    split
    · exact ((calm_redirect _ _ _).bind fun _ => calm_pure ()).triple
    split
    · rename_i accepts
      refine CalmTriple.bind (CalmTriple.mono (calmTriple_handleIncoming slot m) ?_
        fun _ _ h => h) fun _ => (calm_pure ()).triple
      intro w ⟨found, _⟩ b found'
      rw [found] at found'
      cases found'
      exact accepts
    rename_i refused
    have refused : a.mayAccept m a.grainType.reentrant = false := by simpa using refused
    refine CalmTriple.bind calmTriple_get fun w => ?_
    split
    · exact ((calm_replyDeadlock m a).bind fun _ => calm_pure ()).triple
    rename_i acyclic
    split
    · exact (calm_reject _ _ _).triple
    rename_i fits
    split
    · rename_i b queued
      refine calmTriple_modify fun w' ⟨⟨found, counted⟩, same⟩ => ?_
      subst same
      refine World.Calm.record found (.enqueue refused ?_ fits counted queued)
        (a.life_of_enqueue queued)
      simpa using acyclic
    · exact (calm_pure ()).triple

theorem calmTriple_countDispatch (slot : Nat) :
    CalmTriple (fun _ => True)
      (changeRecord slot fun _ a => { a with dispatching := a.dispatching + 1 } : SiloM γ Unit)
      fun _ w => ∀ a, w.record? slot = some a → 0 < a.dispatching := by
  refine fun _ admissible => Async.Spec.modifyAt.mono (fun w _ _ => ?_) fun _ _ h => h
  cases found : w.record? slot with
  | none =>
    refine ⟨admissible.1 _ _ (.refl w), fun b found' => ?_⟩
    rw [found] at found'
    cases found'
  | some a =>
    refine ⟨admissible.1 _ _ (World.Calm.record found (.dispatching _) rfl), fun b found' => ?_⟩
    rw [World.record?_putRecord_of_found found] at found'
    cases found'
    exact Nat.succ_pos _

/-- The dispatcher hands a request over counting it, so a record that queues it counts it. -/
theorem calm_dispatchRequest (m : Message) (slot : Nat) :
    Calm (dispatchRequest m slot : SiloM γ Unit) :=
  (calmTriple_countDispatch slot).bind fun _ =>
    (calmTriple_receiveRequest m slot).bind fun _ =>
      (calm_changeRecord (fun _ _ a _ => .dispatching (a.dispatching - 1)) fun _ _ => rfl).triple

theorem calm_rejectForShutdown (m : Message) : Calm (rejectForShutdown m : SiloM γ Unit) :=
  calm_get.bind fun _ => calm_reject _ _ _

theorem calm_forwardOrReject (m : Message) (stale : ActivationAddress) :
    Calm (forwardOrReject m stale : SiloM γ Unit) :=
  (calm_tryForward _ _).bind fun _ => calm_ite (calm_pure ()) (calm_reject _ _ _)

theorem calm_forwardToNewTarget (m : Message) (stale : ActivationAddress) :
    Calm (forwardToNewTarget m stale : SiloM γ Unit) := by
  refine (calm_invalidateCache _).bind fun _ => calm_get.bind fun w => ?_
  split
  · exact calm_launch fun _ => Proc.noConfusion
  · exact (calm_launch fun _ => Proc.noConfusion).bind fun _ => calm_forwardOrReject _ _

theorem calm_roll (rate : Float) : Calm (roll rate : SiloM γ Bool) :=
  calm_ite (calm_pure _) (calm_update fun _ _ => .outside rfl rfl rfl rfl rfl rfl rfl rfl)

/-- Receiving a message is calm but where it makes the record of a new activation. -/
theorem sound_receiveMessage (m : Message) : Sound (receiveMessage m : SiloM γ Unit) := by
  refine sound_now.bind fun now => sound_ite (sound_pure ()) (sound_get.bind fun w => ?_)
  extract_lets stale m' finish
  have finished : ∀ u, Sound (finish u) := by
    intro u
    simp only [finish]
    refine (calm_forM fun a _ => calm_invalidateCache _).sound.bind fun _ => ?_
    cases m'.targetAddress with
    | none => exact (calm_ite (calm_receiveResponse _) (calm_reject _ _ _)).sound
    | some target =>
      refine sound_ite ((calm_receiveResponse _).sound.bind fun _ => sound_pure ())
        (sound_get.bind fun w => ?_)
      refine sound_ite ((calm_rejectForShutdown _).sound.bind fun _ => sound_pure ()) ?_
      refine (sound_getOrCreate _ _).bind fun r => ?_
      split
      · refine sound_ite ((sound_record? _).bind fun r => ?_) (calm_dispatchRequest _ _).sound
        cases r with
        | none => exact sound_pure ()
        | some a => exact sound_ite (sound_pure ()) (calm_receiveResponse _).sound
      · exact (calm_ite (calm_invalidateCache _) (calm_forwardToNewTarget _ _)).sound
      · exact (calm_reject _ _ _).sound
      · exact (calm_reject _ _ _).sound
  -- injected rejections and losses strike requests only; every message that gets past them
  -- goes on the same way
  exact sound_ite ((calm_roll _).sound.bind fun _ => sound_ite
    ((calm_reject _ _ _).sound.bind fun _ => sound_pure ())
    ((calm_roll _).sound.bind fun _ => sound_ite (sound_pure ()) (finished ()))) (finished ())

end SiloM

end ActorSilo
