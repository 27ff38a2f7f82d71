import ActorSilo.Proofs.DeadlockDetection

/-! # Where the requests of an activation go

A message leaves a mailbox in one of three ways: the pump starts the turns of the oldest waiting
messages, dropping only expired ones; a failed start forwards each waiting message to the
registration's winner while its budget lasts and otherwise refuses it, naming the stale address;
a destroy sends each once more with its target address cleared. A record step takes messages out
only at the head or all at once as the record becomes invalid (`Activation.Step.leaves`); an
invalid record stays drained (`Activation.Drained`) and states move only as
`ActivationState.canMoveTo` allows (`World.Advances`).

**Main result:** `waiting_requests_leave_once`.
-/

namespace ActorSilo

namespace Activation

variable {config : SiloConfig} {a b : Activation}

/-! ## What a step does to the lifecycle state and the mailbox -/

theorem setState_state (a : Activation) (s : ActivationState) :
    ((a.setState s).1.state = s ∧ a.state.canMoveTo s = true) ∨ (a.setState s).1.state = a.state := by
  unfold setState
  split
  · rename_i legal
    exact .inl ⟨rfl, legal⟩
  · exact .inr rfl

theorem setState_moves (a : Activation) (s : ActivationState) :
    (a.setState s).1.state = a.state ∨ a.state.canMoveTo (a.setState s).1.state = true := by
  rcases a.setState_state s with ⟨moved, legal⟩ | kept
  · rw [moved]
    exact .inr legal
  · exact .inl kept

theorem setState_invalid (a : Activation) : (a.setState .invalid).1.state = .invalid := by
  unfold setState
  split
  · rfl
  · rename_i illegal
    cases state : a.state <;> simp_all [ActivationState.canMoveTo]

theorem Step.state (step : a.Step config b) :
    b.state = a.state ∨ a.state.canMoveTo b.state = true := by
  cases step with
  | ready _ => exact a.setState_moves .inactive
  | activating moved =>
    have moves := a.setState_moves .activating
    rw [moved] at moves
    exact moves
  | deactivating => exact a.setState_moves .deactivating
  | enqueue _ _ _ _ queued => exact .inl (enqueue_mailbox queued).2.1
  | fail forwardTo => exact { a with forwardTo }.setState_moves .invalid
  | close => exact a.setState_moves .invalid
  | finish id now => exact .inl (resetRunning_state a id now).1
  | _ => exact .inl (by simp [addOnIdle, Activation.resetKeepAlive])

theorem Reticketed.state_mailbox (moved : a.Reticketed b) :
    b.state = a.state ∧ b.mailbox = a.mailbox ∧ b.id = a.id := by
  rw [← moved]
  exact ⟨rfl, rfl, rfl⟩

theorem enqueue_invalid (invalid : a.state = .invalid) (m : Message) :
    a.enqueue m = .error (.invalid m.targetGrain.render) := by
  simp [enqueue, invalid, ActivationState.isTerminal]

/-- A step takes messages out of the mailbox only in two ways: the pump takes its head, which
the record accepts, or the record becomes invalid and its whole mailbox is taken. Otherwise
the mailbox stays, or one message joins its end. -/
theorem Step.leaves (step : a.Step config b) :
    b.mailbox = a.mailbox ∨ (∃ m, b.mailbox = a.mailbox ++ [m]) ∨
      (∃ m, a.mailbox = m :: b.mailbox ∧ a.state.isUsable = true ∧
        a.mayAccept m a.grainType.reentrant = true) ∨
      (b.mailbox = [] ∧ b.state = .invalid) := by
  cases step with
  | dequeue head accepts =>
    right; right; left
    refine ⟨_, ?_, ?_, accepts⟩
    · rw [dequeue_mailbox]
      exact Activation.peek_eq_some head
    · simp only [mayAccept, Bool.and_eq_true] at accepts
      exact accepts.1
  | enqueue _ _ _ _ queued => exact .inr (.inl ⟨_, (enqueue_mailbox queued).1⟩)
  | fail forwardTo =>
    right; right; right
    exact ⟨rfl, setState_invalid _⟩
  | close =>
    right; right; right
    exact ⟨rfl, setState_invalid a⟩
  | finish id now => exact .inl (resetRunning_state a id now).2.1
  | activating moved =>
    left
    have same := setState_mailbox a .activating
    rw [moved] at same
    exact same
  | _ => exact .inl (by simp [addOnIdle, Activation.resetKeepAlive])

/-! ## Invalid records hold nothing -/

def Drained (a : Activation) : Prop := a.state = .invalid → a.mailbox = []

theorem setState_drained (drained : a.Drained) {s : ActivationState} (valid : s ≠ .invalid) :
    (a.setState s).1.Drained := by
  intro invalid
  rcases a.setState_state s with ⟨moved, _⟩ | kept
  · exact absurd (moved ▸ invalid) valid
  · rw [setState_mailbox]
    exact drained (kept ▸ invalid)

theorem Step.drained (step : a.Step config b) (drained : a.Drained) : b.Drained := by
  cases step with
  | fail forwardTo => exact fun _ => rfl
  | close => exact fun _ => rfl
  | enqueue _ _ _ _ queued =>
    -- the record took the message, so it was not invalid
    intro invalid
    obtain ⟨_, same, _⟩ := enqueue_mailbox queued
    rw [enqueue_invalid (same ▸ invalid)] at queued
    cases queued
  | ready _ => exact setState_drained drained (by decide)
  | activating moved =>
    have moving := setState_drained drained (s := .activating) (by decide)
    rw [moved] at moving
    exact moving
  | deactivating => exact setState_drained drained (by decide)
  | finish id now =>
    intro invalid
    obtain ⟨state, mailbox, _⟩ := resetRunning_state a id now
    rw [mailbox]
    exact drained (state ▸ invalid)
  | dequeue _ _ =>
    intro invalid
    rw [dequeue_state] at invalid
    rw [dequeue_mailbox, drained invalid]
    rfl
  | dispatching _ | deactivated | resetKeepAlive => exact drained
  | start _ _ | takeOnIdle | keepAlive _ _ | shutdown _ | shutdownLater _ =>
    intro invalid
    simp only [recordRunning_state, recordRunning_mailbox, takeOnIdle_state, takeOnIdle_mailbox,
      delayDeactivation_state, delayDeactivation_mailbox, startShuttingDown_state,
      startShuttingDown_mailbox, addOnIdle] at invalid ⊢
    exact drained invalid

theorem drained_invariant : RecordInvariant fun _ a => a.Drained where
  make _ _ _ _ _ _ := fun made => nomatch made
  step step drained := step.drained drained
  reticket moved drained := by
    obtain ⟨state, mailbox, _⟩ := moved.state_mailbox
    intro invalid
    rw [mailbox]
    exact drained (state ▸ invalid)

/-! ## The pump takes the oldest messages -/

theorem pump_takes_oldest (now : Instant) (fuel : Nat) (a : Activation) :
    ∃ taken, a.mailbox = taken ++ (a.pump now fuel).1.mailbox ∧
      (a.pump now fuel).2 = taken.filter fun m => !m.isExpired now := by
  induction fuel generalizing a with
  | zero => exact ⟨[], rfl, rfl⟩
  | succ fuel ih =>
    simp only [pump]
    split
    · exact ⟨[], rfl, rfl⟩
    · split
      · exact ⟨[], rfl, rfl⟩
      · rename_i next peeked
        have queue := peek_eq_some peeked
        split
        · exact ⟨[], rfl, rfl⟩
        · split
          · -- the head starts its turn
            rename_i fresh
            obtain ⟨taken, rest, started⟩ := ih (a.dequeue.2.recordRunning next now)
            rw [recordRunning_mailbox, dequeue_mailbox] at rest
            refine ⟨next :: taken, ?_, ?_⟩
            · rw [queue, List.cons_append, ← rest]
            · have fresh : next.isExpired now = false := by simpa using fresh
              simp [started, fresh]
          · -- the head expired and is dropped
            rename_i expired
            obtain ⟨taken, rest, started⟩ := ih a.dequeue.2
            rw [dequeue_mailbox] at rest
            refine ⟨next :: taken, ?_, ?_⟩
            · rw [queue, List.cons_append, ← rest]
            · have expired : next.isExpired now = true := by simpa using expired
              simp [started, expired]

/-! ## Lifecycle moves of one activation -/

/-- The record of the same activation, its lifecycle state kept or moved as the lifecycle
allows, maybe several times. -/
structure Advances (a b : Activation) : Prop where
  id : b.id = a.id
  state : Relation.ReflTransGen (fun s t : ActivationState => s.canMoveTo t = true) a.state b.state

theorem Advances.refl (a : Activation) : a.Advances a := ⟨rfl, .refl⟩

theorem Advances.trans {c : Activation} (first : a.Advances b) (second : b.Advances c) :
    a.Advances c :=
  ⟨second.id.trans first.id, first.state.trans second.state⟩

theorem Step.advances (step : a.Step config b) : a.Advances b := by
  refine ⟨step.id, ?_⟩
  rcases step.state with kept | legal
  · rw [kept]
  · exact .single legal

theorem Reticketed.advances (moved : a.Reticketed b) : a.Advances b := by
  obtain ⟨state, _, id⟩ := moved.state_mailbox
  exact ⟨id, by rw [state]⟩

end Activation

namespace World

variable {γ : Type}

/-! ## Registered slots and the lifecycle along a run -/

/-- Every registered slot holds a record of the id it is registered under. -/
def SlotsHold (w : World γ) : Prop :=
  ∀ p ∈ w.registeredSlots, ∃ a, w.record? p.2 = some a ∧ a.id = p.1

/-- Every record of `w` is still in its slot in `w'`, the same activation, its state kept or
moved along the lifecycle. -/
def Advances (w w' : World γ) : Prop :=
  ∀ slot a, w.record? slot = some a → ∃ b, w'.record? slot = some b ∧ a.Advances b

theorem Advances.refl (w : World γ) : w.Advances w :=
  fun _ a found => ⟨a, found, .refl a⟩

theorem Advances.trans {w₁ w₂ w₃ : World γ} (first : w₁.Advances w₂) (second : w₂.Advances w₃) :
    w₁.Advances w₃ := by
  intro slot a found
  obtain ⟨b, found, ab⟩ := first slot a found
  obtain ⟨c, found, bc⟩ := second slot b found
  exact ⟨c, found, ab.trans bc⟩

theorem Advances.of_records {w w' : World γ} (same : w'.records = w.records) : w.Advances w' := by
  intro slot a found
  exact ⟨a, by rwa [record?, same], .refl a⟩

theorem Advances.of_related {w w' : World γ} (related : Related Activation.Advances w w') :
    w.Advances w' :=
  fun _ _ found => related.found found

theorem SlotsHold.advance {w w' : World γ} (holds : w.SlotsHold) (advances : w.Advances w')
    (slots : ∀ p ∈ w'.registeredSlots, p ∈ w.registeredSlots) : w'.SlotsHold := by
  intro p member
  obtain ⟨a, found, id⟩ := holds p (slots p member)
  obtain ⟨b, found, moved⟩ := advances p.2 a found
  exact ⟨b, found, moved.id.trans id⟩

theorem slotOf?_go_found {w : World γ} {id slot : Nat} :
    ∀ n, slotOf?.go w id n = some slot → ∃ a, w.record? slot = some a ∧ a.id = id
  | 0, found => nomatch found
  | n + 1, found => by
    unfold slotOf?.go at found
    split at found
    · rename_i same
      cases found
      simp only [beq_iff_eq, Option.map_eq_some_iff] at same
      exact same
    · exact slotOf?_go_found n found

theorem SlotsHold.id_of_slotOf? {w : World γ} (holds : w.SlotsHold) {id slot : Nat}
    {a : Activation} (slotted : w.slotOf? id = some slot) (found : w.record? slot = some a) :
    a.id = id := by
  unfold slotOf? at slotted
  split at slotted
  · rename_i registered _ registered
    cases slotted
    obtain ⟨b, held, same⟩ := holds _ (List.mem_of_find?_eq_some registered)
    have named := List.find?_some registered
    simp only [beq_iff_eq] at named
    rw [found] at held
    cases held
    exact same.trans named
  · obtain ⟨b, held, same⟩ := slotOf?_go_found _ slotted
    rw [found] at held
    cases held
    exact same

theorem slotOf?_of_ids {w w' : World γ} (related : Related (fun a b => b.id = a.id) w w')
    (slots : w'.registeredSlots = w.registeredSlots) (size : w'.records.size = w.records.size) :
    w'.slotOf? = w.slotOf? := by
  funext id
  have search : ∀ n, slotOf?.go w' id n = slotOf?.go w id n := by
    intro n
    induction n with
    | zero => rfl
    | succ n ih =>
      have rel := related n
      unfold record? at rel
      unfold slotOf?.go
      -- the record in slot `n` has the same id in both worlds, or neither has one
      generalize w.records[n]? = x at rel ⊢
      generalize w'.records[n]? = x' at rel ⊢
      cases rel with
      | none => exact ih
      | some same => simp only [Option.map_some, same, ih]
  unfold slotOf?
  rw [slots, size, search]

theorem slotOf?_congr {w w' : World γ} (related : Related Activation.Advances w w')
    (slots : w'.registeredSlots = w.registeredSlots) (size : w'.records.size = w.records.size) :
    w'.slotOf? = w.slotOf? :=
  slotOf?_of_ids (Related.mono (fun moved => moved.id) related) slots size

theorem related_putNewest {w : World γ} (holds : w.SlotsHold) {as : List Activation}
    (read : ∀ a ∈ as, ∃ id slot b, w.slotOf? id = some slot ∧ w.record? slot = some b ∧
      b.Reticketed a) :
    Related Activation.Advances w (w.putNewest as) ∧
      (w.putNewest as).registeredSlots = w.registeredSlots := by
  let Kept (u : World γ) : Prop := Related Activation.Advances w u ∧
    u.registeredSlots = w.registeredSlots ∧ u.records.size = w.records.size
  suffices kept : Kept (w.putNewest as) from ⟨kept.1, kept.2.1⟩
  refine Executor.foldl_invariant_mem Kept _ as w
    ⟨Related.refl Activation.Advances.refl w, rfl, rfl⟩ ?_
  rintro u a member ⟨related, slots, size⟩
  obtain ⟨id, slot, b, slotted, found, moved⟩ := read a member
  -- the record goes back to the slot it was read from: that slot holds the records of its id
  have named : a.id = id := (moved.state_mailbox.2.2).trans (holds.id_of_slotOf? slotted found)
  rw [slotOf?_congr related slots size, named, slotted]
  exact ⟨related.putRecord slot found moved.advances, slots, by simp [putRecord, size]⟩

theorem Change.advances {w w' : World γ} (change : w.Change w') (holds : w.SlotsHold) :
    w'.SlotsHold ∧ w.Advances w' := by
  cases change with
  | outside records _ _ _ slots _ _ =>
    have advances := Advances.of_records (w := w) records
    exact ⟨holds.advance advances fun p member => slots ▸ member, advances⟩
  | record found step =>
    have advances := Advances.of_related
      ((Related.refl Activation.Advances.refl w).putRecord _ found step.advances)
    exact ⟨holds.advance advances fun _ member => member, advances⟩
  | reticket found moved =>
    have advances := Advances.of_related
      ((Related.refl Activation.Advances.refl w).putRecord _ found moved.advances)
    exact ⟨holds.advance advances fun _ member => member, advances⟩
  | wheel c => exact ⟨holds, Advances.of_records rfl⟩
  | rescan read =>
    obtain ⟨related, slots⟩ := related_putNewest holds read
    have advances := Advances.of_related related
    exact ⟨holds.advance advances fun p member => slots ▸ member, advances⟩
  | @create a _ _ =>
    -- the new record goes to a new slot, registered under its own id
    have old : ∀ slot b, w.record? slot = some b → (w.addRecord a).1.record? slot = some b := by
      intro slot b found
      have inside : slot ≠ w.records.size := by
        rintro rfl
        rw [record?_size] at found
        cases found
      rw [record?_addRecord, if_neg inside, found]
    refine ⟨?_, fun slot b found => ⟨b, old slot b found, .refl b⟩⟩
    intro p member
    rcases List.mem_append.mp member with registered | added
    · obtain ⟨b, found, id⟩ := holds p registered
      exact ⟨b, old _ _ found, id⟩
    · rw [List.mem_singleton.mp added]
      refine ⟨a, ?_, rfl⟩
      show (w.addRecord a).1.record? w.records.size = some a
      rw [record?_addRecord, if_pos rfl]
  | leave _ =>
    exact ⟨holds.advance (Advances.of_records rfl) fun _ member => List.mem_of_mem_filter member,
      Advances.of_records rfl⟩
  | directory _ => exact ⟨holds, Advances.of_records rfl⟩

theorem Changes.advances {w w' : World γ} (changes : Relation.ReflTransGen Change w w')
    (holds : w.SlotsHold) : w'.SlotsHold ∧ w.Advances w' := by
  induction changes with
  | refl => exact ⟨holds, .refl w⟩
  | tail _ last ih =>
    obtain ⟨held, advanced⟩ := ih
    obtain ⟨held', advances⟩ := last.advances held
    exact ⟨held', advanced.trans advances⟩

end World

/-! ## Where the messages taken out go -/

namespace Message

/-- The message with the address it was sent to marked stale, for its receiver's cache. -/
def markTargetStale (m : Message) : Message :=
  match m.targetAddress with
  | some stale => m.addCacheInvalidation stale
  | none => m

/-- The message forwarded to `target`, an activation that exists: one forward more. -/
def forwardedTo (m : Message) (target : ActivationAddress) : Message :=
  { { m with forwardCount := m.forwardCount + 1 }.withTargetAddress target with isNewPlacement := false }

/-- A request's refusal for good, for `reason`; other messages get none. -/
def refusal (m : Message) (reason : String) : Option Message :=
  if m.direction = .request then some (m.createRejection .unrecoverable reason) else none

/-- What is sent for a message that reached an activation taking no more work, its target
marked stale: the message forwarded to `target` while its forward budget `limit` lasts, and
its refusal otherwise. -/
def redirection (limit : Nat) (target : Option ActivationAddress) (reason : String) (m : Message) :
    Option Message :=
  match target with
  | some target =>
    if m.forwardCount < limit then some (m.markTargetStale.forwardedTo target)
    else m.markTargetStale.refusal reason
  | none => m.markTargetStale.refusal reason

/-- What is sent for a message waiting on the activation at `failed` when its start fails with
`err`: its redirection to the activation that won the registration, or, with no winner, its
refusal naming the failed address stale. -/
def afterFailedStart (limit : Nat) (failed : ActivationAddress) (err : ActivationError)
    (m : Message) : Option Message :=
  match err with
  | .duplicate winner => m.redirection limit (some winner) "resend from duplicate activation"
  | _ => (m.addCacheInvalidation failed).refusal
      ("activation " ++ failed.render ++ " failed: " ++ err.message)

@[simp] theorem markTargetStale_forwardCount (m : Message) :
    m.markTargetStale.forwardCount = m.forwardCount := by
  unfold markTargetStale addCacheInvalidation
  split
  · split <;> rfl
  · rfl

end Message

namespace World

variable {γ : Type}

/-- `w'` has sent no message that `w` had not, and has the configuration of `w`. -/
structure NothingSent (w w' : World γ) : Prop where
  inbound : w'.inbound = w.inbound
  outbound : w'.outbound = w.outbound
  config : w'.config = w.config

theorem NothingSent.refl (w : World γ) : w.NothingSent w := ⟨rfl, rfl, rfl⟩

theorem NothingSent.trans {w₁ w₂ w₃ : World γ} (first : w₁.NothingSent w₂)
    (second : w₂.NothingSent w₃) : w₁.NothingSent w₃ :=
  ⟨second.inbound.trans first.inbound, second.outbound.trans first.outbound,
    second.config.trans first.config⟩

theorem NothingSent.putRecord (w : World γ) (slot : Nat) (a : Activation) :
    w.NothingSent (w.putRecord slot a) := ⟨rfl, rfl, rfl⟩

end World

namespace SiloM

variable {γ : Type}

open Async

/-- Code that runs to its end from any world in one step, starting no task and sending no
message. -/
def Silent (x : SiloM γ Unit) : Prop :=
  ∀ now (w : World γ), ∃ w', Runs x now w () w' [] ∧ w.NothingSent w'

theorem Silent.bind {x y : SiloM γ Unit} (first : Silent x) (second : Silent y) :
    Silent (x >>= fun _ => y) := by
  intro now w
  obtain ⟨w₁, runs₁, sent₁⟩ := first now w
  obtain ⟨w₂, runs₂, sent₂⟩ := second now w₁
  exact ⟨w₂, runs₁.bind runs₂, sent₁.trans sent₂⟩

theorem silent_notifyDeactivated (slot : Nat) : Silent (notifyDeactivated slot : SiloM γ Unit) := by
  intro now w
  cases found : w.record? slot with
  | none =>
    exact ⟨w, (runs_changeRecord_none found _ now).bind (runs_notify _ now w), .refl w⟩
  | some a =>
    exact ⟨_, (runs_changeRecord found _ now).bind (runs_notify _ now _), .putRecord w slot _⟩

theorem silent_unregisterAddress (a : ActivationAddress) :
    Silent (unregisterAddress a : SiloM γ Unit) :=
  fun now w => ⟨_, runs_modify _ now w, by split <;> exact ⟨rfl, rfl, rfl⟩⟩

theorem runs_transport (m : Message) (now : Instant) (w : World γ) :
    ∃ w', Runs (transport m : SiloM γ Unit) now w () w' [] ∧ w'.config = w.config ∧
      w'.callbacks = w.callbacks := by
  cases silo : m.targetSilo with
  | none =>
    refine ⟨{ w with inbound := w.inbound ++ [m] }, fun k next => ?_, rfl, rfl⟩
    simp only [transport, silo]
    rfl
  | some s =>
    by_cases here : (s == w.localSilo) = true
    · refine ⟨{ w with inbound := w.inbound ++ [m] }, fun k next => ?_, rfl, rfl⟩
      simp only [transport, silo]
      rw [Runs.settle_bind (runs_get now w)]
      simp only [here, if_true]
      rfl
    · refine ⟨{ w with outbound := w.outbound.map (· ++ [m]) }, fun k next => ?_, rfl, rfl⟩
      simp only [transport, silo]
      rw [Runs.settle_bind (runs_get now w)]
      simp only [here, if_false, Bool.false_eq_true]
      rfl

theorem runs_sendMessage (m : Message) (now : Instant) (w : World γ) :
    ∃ w' started, Runs (sendMessage m : SiloM γ Unit) now w () w' started ∧
      w'.config = w.config ∧ w'.callbacks = w.callbacks := by
  obtain ⟨w', runs, kept⟩ := runs_transport m now w
  unfold sendMessage
  split
  · split
    · exact ⟨w', [], runs, kept⟩
    · exact ⟨w, [], runs_pure () now w, rfl, rfl⟩
  · split
    · exact ⟨w', [], runs, kept⟩
    · exact ⟨w, _, runs_launch _ now w, rfl, rfl⟩

theorem settle_reject (m : Message) (reason : String) (now : Instant) (w : World γ)
    (k : Unit → Program (World γ) Event Proc) (next : Nat) :
    (reject m .unrecoverable reason k).settle now next w =
      (((m.refusal reason).toList.forM sendMessage) k).settle now next w := by
  unfold reject Message.refusal
  cases direction : m.direction <;> rfl

theorem settle_redirect (m : Message) (target : Option ActivationAddress) (reason : String)
    (now : Instant) (w : World γ) (k : Unit → Program (World γ) Event Proc) (next : Nat) :
    (redirect m target reason k).settle now next w =
      (((m.redirection w.config.messaging.maxForwardCount target reason).toList.forM sendMessage)
        k).settle now next w := by
  cases target with
  | none => exact settle_reject m.markTargetStale reason now w k next
  | some target =>
    show ((tryForward m.markTargetStale (some target) >>= fun b =>
      if b = true then pure () else reject m.markTargetStale .unrecoverable reason) k).settle
        now next w = _
    unfold tryForward
    rw [bind_assoc, Runs.settle_bind (runs_get now w)]
    by_cases budget : m.forwardCount < w.config.messaging.maxForwardCount
    · have forwarded : ¬(m.markTargetStale.forwardCount ≥ w.config.messaging.maxForwardCount) := by
        simpa using budget
      simp only [Message.redirection, budget, if_true, Option.toList_some]
      rw [if_neg forwarded]
      rfl
    · have exhausted : m.markTargetStale.forwardCount ≥ w.config.messaging.maxForwardCount := by
        simpa using budget
      simp only [Message.redirection, budget, if_false]
      rw [if_pos exhausted]
      exact settle_reject m.markTargetStale reason now w k next

theorem settle_forM_routes (config : SiloConfig) {f : Message → SiloM γ Unit}
    {route : Message → Option Message} (now : Instant)
    (each : ∀ m (w : World γ) k next, w.config = config →
      (f m k).settle now next w = (((route m).toList.forM sendMessage) k).settle now next w) :
    ∀ (ms : List Message) (w : World γ) k next, w.config = config →
      ((ms.forM f) k).settle now next w = (((ms.filterMap route).forM sendMessage) k).settle now next w
  | [], _, _, _, _ => rfl
  | m :: rest, w, k, next, configured => by
    change (f m fun _ => (rest.forM f) k).settle now next w = _
    rw [each m w _ next configured, List.filterMap_cons]
    cases routed : route m with
    | none => exact settle_forM_routes config now each rest w k next configured
    | some sent =>
      -- the first message is sent; the rest are handled in the world it leaves
      obtain ⟨w', started, runs, kept⟩ := runs_sendMessage sent now w
      change (sendMessage sent fun _ => (rest.forM f) k).settle now next w =
        (sendMessage sent fun _ => ((rest.filterMap route).forM sendMessage) k).settle now next w
      rw [runs, runs, settle_forM_routes config now each rest w' k _ (kept.1.trans configured)]

theorem runs_unregisterLocally {w : World γ} {slot : Nat} {a : Activation}
    (found : w.record? slot = some a) (now : Instant) :
    ∃ w', Runs (unregisterLocally slot : SiloM γ Unit) now w () w' [] ∧ w.NothingSent w' ∧
      ∃ b, w'.record? slot = some b ∧ a.Reticketed b := by
  unfold unregisterLocally
  refine ⟨_, runs_modify _ now w, ?_⟩
  simp only [found]
  generalize w.registry.remove a = removal
  obtain ⟨r, removed⟩ := removal
  cases removed with
  | false => exact ⟨⟨rfl, rfl, rfl⟩, a, found, .refl a⟩
  | true =>
    have moved := Collector.cancel_reticketed w.collector a
    generalize w.collector.cancel a = cancelled at moved ⊢
    obtain ⟨c, b, _⟩ := cancelled
    exact ⟨⟨rfl, rfl, rfl⟩, b, World.record?_putRecord_of_found found b, moved⟩

theorem settle_onActivationFailed {w : World γ} {slot : Nat} {a : Activation}
    (found : w.record? slot = some a) (err : ActivationError) (now : Instant) :
    ∃ (w₁ : World γ) (rest : SiloM γ Unit), w.NothingSent w₁ ∧ Silent rest ∧
      (∃ b, w₁.record? slot = some b ∧ b.state = .invalid ∧ b.mailbox = []) ∧
      ∀ k next, (onActivationFailed slot err k).settle now next w =
        (((a.mailbox.filterMap (Message.afterFailedStart w.config.messaging.maxForwardCount a.address
          err)).forM sendMessage >>= fun _ => rest) k).settle now next w₁ := by
  -- the record the failure leaves, once its ticket is cancelled
  have ended : ∀ forwardTo, ∃ w₁, Runs (unregisterLocally slot : SiloM γ Unit) now
      (w.putRecord slot ({ a with forwardTo }.setState .invalid).1.takePending.2) () w₁ [] ∧
      w.NothingSent w₁ ∧ ∃ b, w₁.record? slot = some b ∧ b.state = .invalid ∧ b.mailbox = [] ∧
        b.address = a.address := by
    intro forwardTo
    obtain ⟨w₁, runs, sent, b, found₁, moved⟩ := runs_unregisterLocally
      (World.record?_putRecord_of_found found ({ a with forwardTo }.setState .invalid).1.takePending.2) now
    obtain ⟨state, mailbox, _⟩ := moved.state_mailbox
    refine ⟨w₁, runs, (World.NothingSent.putRecord w slot _).trans sent, b, found₁, ?_, mailbox, ?_⟩
    · rw [state, Activation.takePending_state]
      exact Activation.setState_invalid _
    · rw [← moved]
      simp
  cases err with
  | duplicate winner =>
    -- each waiting message is redirected to the winner
    obtain ⟨w₁, runs, sent, b, found₁, invalid, empty, _⟩ := ended (some winner)
    refine ⟨w₁, notifyDeactivated slot, sent, silent_notifyDeactivated slot,
      ⟨b, found₁, invalid, empty⟩, fun k next => ?_⟩
    unfold onActivationFailed
    refine (Runs.settle_bind (runs_withRecord found _ _ now) k next).trans ?_
    refine (Runs.settle_bind runs _ next).trans ?_
    refine (Runs.settle_bind (runs_record? slot now w₁) _ next).trans ?_
    rw [found₁]
    dsimp only [Activation.takePending]
    rw [Activation.setState_mailbox]
    refine settle_forM_routes w.config now (fun m u k' next' same => ?_) a.mailbox w₁ _ next sent.config
    rw [settle_redirect, same]
    rfl
  | _ =>
    -- with no winner, each waiting request is refused for good
    obtain ⟨w₁, runs, sent, b, found₁, invalid, empty, address⟩ := ended none
    refine ⟨w₁, unregisterAddress b.address >>= fun _ => notifyDeactivated slot, sent,
      (silent_unregisterAddress _).bind (silent_notifyDeactivated slot),
      ⟨b, found₁, invalid, empty⟩, fun k next => ?_⟩
    unfold onActivationFailed
    refine (Runs.settle_bind (runs_withRecord found _ _ now) k next).trans ?_
    refine (Runs.settle_bind runs _ next).trans ?_
    refine (Runs.settle_bind (runs_record? slot now w₁) _ next).trans ?_
    rw [found₁]
    dsimp only [Activation.takePending]
    rw [Activation.setState_mailbox]
    refine settle_forM_routes w.config now (fun m u k' next' _ => ?_) a.mailbox w₁ _ next sent.config
    rw [settle_reject, address]
    rfl

theorem settle_endRecord {w : World γ} {slot : Nat} {a : Activation}
    (found : w.record? slot = some a) (now : Instant) :
    ∃ w₁ : World γ, w.NothingSent w₁ ∧
      (∃ b, w₁.record? slot = some b ∧ b.state = .invalid ∧ b.mailbox = []) ∧
      ∀ k next, (endRecord slot k).settle now next w =
        (((a.mailbox.map Message.clearTargetAddress).forM sendMessage) k).settle now next w₁ := by
  obtain ⟨w₁, runs, sent, b, found₁, moved⟩ := runs_unregisterLocally
    (World.record?_putRecord_of_found found { (a.setState .invalid).1 with forwardTo := none }.takePending.2)
    now
  obtain ⟨state, mailbox, _⟩ := moved.state_mailbox
  have found₂ : ({ w₁ with directory := w₁.directory.invalidate b.grain } : World γ).record? slot =
      some b := found₁
  refine ⟨({ w₁ with directory := w₁.directory.invalidate b.grain } : World γ).putRecord slot
    { b with deactivated := true }, ((World.NothingSent.putRecord w slot _).trans sent).trans
      ⟨rfl, rfl, rfl⟩, ⟨_, World.record?_putRecord_of_found found₂ _, ?_, mailbox⟩, fun k next => ?_⟩
  · show b.state = .invalid
    rw [state]
    exact Activation.setState_invalid a
  unfold endRecord
  refine (Runs.settle_bind (runs_withRecord found _ _ now) k next).trans ?_
  refine (Runs.settle_bind runs _ next).trans ?_
  refine (Runs.settle_bind (runs_record? slot now w₁) _ next).trans ?_
  rw [found₁]
  dsimp only [Activation.takePending]
  -- the cache entry goes stale and the end is announced before anything is sent
  refine (Runs.settle_bind (runs_modify _ now w₁) _ next).trans ?_
  refine (Runs.settle_bind ((runs_changeRecord found₂ _ now).bind (runs_notify _ now _)) _ next).trans ?_
  rw [Activation.setState_mailbox, ← List.filterMap_eq_map']
  have resent : ∀ (m : Message) (u : World γ) k next, u.config = w.config →
      (sendMessage m.clearTargetAddress k).settle now next u =
        (((some m.clearTargetAddress).toList.forM sendMessage) k).settle now next u :=
    fun _ _ _ _ _ => rfl
  exact settle_forM_routes w.config now resent a.mailbox _ k next sent.config

theorem runs_pumpMailbox_oldest {w : World γ} {slot : Nat} {a : Activation}
    (found : w.record? slot = some a) (now : Instant) (fuel : Nat) :
    ∃ w' started taken, Runs (pumpMailbox slot fuel : SiloM γ Unit) now w () w' started ∧
      (∃ b, w'.record? slot = some b ∧ a.mailbox = taken ++ b.mailbox) ∧
      turnStarts started = (taken.filter fun m => !m.isExpired now).map fun m => (slot, m) := by
  obtain ⟨w', started, runs, records, starts⟩ := runs_pumpMailbox slot now fuel found
  obtain ⟨taken, rest, pumped⟩ := a.pump_takes_oldest now fuel
  refine ⟨w', started, taken, runs, ⟨_, ?_, rest⟩, by rw [starts, pumped]⟩
  unfold World.record?
  rw [records]
  exact World.record?_putRecord_of_found found _

theorem start_drained_advances [Grains γ] (grains : Grains.Sound γ) {program : SiloM γ Unit}
    (sound : Sound program) (steps rounds : Nat) (x : Executor (World γ) Event Proc)
    (tasks : x.TasksKeep (fun _ => True) World.Changes)
    (drained : x.world.Each fun _ a => a.Drained) (holds : x.world.SlotsHold)
    {x' : Executor (World γ) Event Proc} {out : Outcome}
    (run : Executor.start Proc.run steps rounds x program.toProgram = (x', out)) :
    x'.world.Each (fun _ a => a.Drained) ∧ x.world.Advances x'.world :=
  ⟨Activation.drained_invariant.start grains sound steps rounds x tasks drained run,
    (World.Changes.advances (start_changes grains sound steps rounds x tasks run).1 holds).2⟩

end SiloM

variable {γ : Type}

/-- No waiting request is lost or doubled when an activation ends. A step of a record takes
messages out of its mailbox only at its head, where the record accepts it, or all of them as it
becomes invalid. The message pump takes the oldest waiting messages and starts the turn of each
that has not expired, in order. When the start of an activation fails, exactly what
`Message.afterFailedStart` gives for each waiting message is sent, in order: the message
forwarded to the winner of the registration while its forward budget lasts, otherwise its
refusal for good naming the stale address, and nothing for a one-way message. When an
activation is destroyed, each waiting message is sent once more with its target address cleared.
A request for an invalid record is redirected and never queued. And along every run of a silo,
an invalid record holds no message and refuses every one offered, and each record's lifecycle
state moves only as `ActivationState.canMoveTo` allows. -/
theorem waiting_requests_leave_once [Grains γ] (grains : Grains.Sound γ) :
    (∀ config (a b : Activation), a.Step config b →
      b.mailbox = a.mailbox ∨ (∃ m, b.mailbox = a.mailbox ++ [m]) ∨
        (∃ m, a.mailbox = m :: b.mailbox ∧ a.state.isUsable = true ∧
          a.mayAccept m a.grainType.reentrant = true) ∨
        (b.mailbox = [] ∧ b.state = .invalid)) ∧
    (∀ (w : World γ) slot a, w.record? slot = some a → ∀ now fuel,
      ∃ w' started taken, Async.Runs (SiloM.pumpMailbox slot fuel : SiloM γ Unit) now w () w' started ∧
        (∃ b, w'.record? slot = some b ∧ a.mailbox = taken ++ b.mailbox) ∧
        turnStarts started = (taken.filter fun m => !m.isExpired now).map fun m => (slot, m)) ∧
    (∀ (w : World γ) slot a, w.record? slot = some a → ∀ err now,
      ∃ (w₁ : World γ) (rest : SiloM γ Unit), w.NothingSent w₁ ∧ SiloM.Silent rest ∧
        (∃ b, w₁.record? slot = some b ∧ b.state = .invalid ∧ b.mailbox = []) ∧
        ∀ k next, (SiloM.onActivationFailed slot err k).settle now next w =
          (((a.mailbox.filterMap (Message.afterFailedStart w.config.messaging.maxForwardCount a.address
            err)).forM SiloM.sendMessage >>= fun _ => rest) k).settle now next w₁) ∧
    (∀ (w : World γ) slot a, w.record? slot = some a → ∀ now,
      ∃ w₁ : World γ, w.NothingSent w₁ ∧
        (∃ b, w₁.record? slot = some b ∧ b.state = .invalid ∧ b.mailbox = []) ∧
        ∀ k next, (SiloM.endRecord slot k).settle now next w =
          (((a.mailbox.map Message.clearTargetAddress).forM SiloM.sendMessage) k).settle now next w₁) ∧
    (∀ (w : World γ) slot a m, w.record? slot = some a → a.state = .invalid → ∀ now next k,
      (SiloM.receiveRequest m slot k).settle now next w =
        (((m.redirection w.config.messaging.maxForwardCount a.forwardTo
          "request for invalid activation").toList.forM SiloM.sendMessage) k).settle now next w) ∧
    (∀ (program : SiloM γ Unit), SiloM.Sound program →
      ∀ steps rounds (x x' : Executor (World γ) Event Proc) out,
        x.TasksKeep (fun _ => True) World.Changes → x.world.Each (fun _ a => a.Drained) →
        x.world.SlotsHold →
        Executor.start Proc.run steps rounds x program.toProgram = (x', out) →
        (∀ slot a m, x'.world.record? slot = some a → a.state = .invalid →
          a.mailbox = [] ∧ a.enqueue m = .error (.invalid m.targetGrain.render)) ∧
        x.world.Advances x'.world) := by
  refine ⟨fun _ _ _ step => step.leaves, fun _ _ _ found now fuel =>
    SiloM.runs_pumpMailbox_oldest found now fuel, fun _ _ _ found err now =>
    SiloM.settle_onActivationFailed found err now, fun _ _ _ found now =>
    SiloM.settle_endRecord found now, ?_, ?_⟩
  · intro w slot a m found invalid now next k
    rw [SiloM.receiveRequest_invalid found now next k invalid]
    exact SiloM.settle_redirect m a.forwardTo _ now w k next
  · intro program sound steps rounds x x' out tasks drained holds run
    obtain ⟨drained', advances⟩ :=
      SiloM.start_drained_advances grains sound steps rounds x tasks drained holds run
    exact ⟨fun slot a m found invalid =>
      ⟨drained' slot a found invalid, Activation.enqueue_invalid invalid m⟩, advances⟩

theorem freshSilo_slotsHold : freshSilo.SlotsHold := by
  intro p member
  simp [freshSilo] at member

open Scenario in
/-- After one round of `counterCalls`, the record that lost the race for counter `a` is invalid:
it holds no message and refuses every one, and the records moved only along their lifecycles. -/
theorem counter_calls_drain_lost_record :
    ((counterRun 1).1.world.record? 1).map (·.state) = some .invalid ∧
      (∀ slot a m, (counterRun 1).1.world.record? slot = some a → a.state = .invalid →
        a.mailbox = [] ∧ a.enqueue m = .error (.invalid m.targetGrain.render)) ∧
      counterSilo.Advances (counterRun 1).1.world :=
  ⟨by decide +kernel, (waiting_requests_leave_once bench_sound).2.2.2.2.2 counterCalls
    calm_counterCalls.sound 1000 1 _ _ _ (fun _ member => (List.not_mem_nil member).elim)
    (counterSilo_each _) freshSilo_slotsHold (counterRun_eq 1)⟩

end ActorSilo
