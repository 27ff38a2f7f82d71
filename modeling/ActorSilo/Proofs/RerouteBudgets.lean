import ActorSilo.Proofs.Evacuation
import ActorSilo.Proofs.CallbackFiring

/-! # Resend and forward budgets

A request is sent again by a resend (`SiloM.tryResend`) or a forward (`SiloM.tryForward`); each
keeps a count in the request and sends a copy only below the silo's budget for it, the copy
counting one more. So a chain of copies is no longer than the budgets left to the first
(`Reroutes.within`), and a callback, whose resend hook spends the budget kept in its request
(`Callback.Spends`), resends at most what is left of it (`Callback.Course.spends`).

**Main result:** `reroutes_stay_within_budgets`.
-/

namespace ActorSilo

namespace Message

/-- The copy of a request that resending it sends: one resend more, to be addressed anew. -/
def resent (m : Message) : Message := { m with resendCount := m.resendCount + 1 }.clearTargetAddress

/-- The copy of a request that forwarding it sends, to `target` when it names one and otherwise to
be addressed anew: one forward more. -/
def forwarded (m : Message) : Option ActivationAddress → Message
  | some target => m.forwardedTo target
  | none => { m with forwardCount := m.forwardCount + 1 }.clearTargetAddress

@[simp] theorem resent_resendCount (m : Message) : m.resent.resendCount = m.resendCount + 1 := rfl

@[simp] theorem resent_forwardCount (m : Message) : m.resent.forwardCount = m.forwardCount := rfl

@[simp] theorem forwarded_resendCount (m : Message) (target : Option ActivationAddress) :
    (m.forwarded target).resendCount = m.resendCount := by
  cases target <;> rfl

@[simp] theorem forwarded_forwardCount (m : Message) (target : Option ActivationAddress) :
    (m.forwarded target).forwardCount = m.forwardCount + 1 := by
  cases target <;> rfl

end Message

/-! ## Chains of copies -/

/-- `m'` is a copy of the request `m` that the silo sends again under the messaging settings
`config`: resent, or forwarded, while the budget of that way lasts. -/
inductive Reroute (config : MessagingConfig) : Message → Message → Prop
  | resend {m : Message} : m.resendCount < config.maxResendCount → Reroute config m m.resent
  | forward {m : Message} (target : Option ActivationAddress) :
      m.forwardCount < config.maxForwardCount → Reroute config m (m.forwarded target)

/-- Copies sent again one from another, `n` times, from `m` to `m'`. -/
inductive Reroutes (config : MessagingConfig) : Nat → Message → Message → Prop
  | refl (m : Message) : Reroutes config 0 m m
  | tail {n : Nat} {m m₁ m₂ : Message} :
      Reroutes config n m m₁ → Reroute config m₁ m₂ → Reroutes config (n + 1) m m₂

/-- The resends and forwards that the budgets of `config` leave to a request. -/
def budgetLeft (config : MessagingConfig) (m : Message) : Nat :=
  (config.maxResendCount - m.resendCount) + (config.maxForwardCount - m.forwardCount)

variable {config : MessagingConfig} {n : Nat} {m m' : Message}

theorem Reroute.counts (step : Reroute config m m') :
    m'.resendCount ≤ max m.resendCount config.maxResendCount ∧
      m'.forwardCount ≤ max m.forwardCount config.maxForwardCount ∧
      budgetLeft config m' + 1 = budgetLeft config m := by
  unfold budgetLeft
  cases step with
  | resend below =>
    simp only [Message.resent_resendCount, Message.resent_forwardCount]
    omega
  | forward target below =>
    simp only [Message.forwarded_resendCount, Message.forwarded_forwardCount]
    omega

/-- Along a chain of copies the counts stay within the larger of the first copy's and the budget,
and each copy spends one of the resends and forwards left to the first. -/
theorem Reroutes.within (chain : Reroutes config n m m') :
    m'.resendCount ≤ max m.resendCount config.maxResendCount ∧
      m'.forwardCount ≤ max m.forwardCount config.maxForwardCount ∧
      n + budgetLeft config m' = budgetLeft config m := by
  induction chain with
  | refl => omega
  | tail _ step ih =>
    obtain ⟨resends, forwards, spent⟩ := step.counts
    obtain ⟨resends', forwards', spent'⟩ := ih
    omega

namespace World

variable {γ : Type}

theorem callback?_putCallback {w : World γ} {id : Nat} {cb cb' : Callback}
    (found : w.callback? id = some cb) (same : cb'.id = cb.id) :
    (w.putCallback cb').callback? id = some cb' := by
  have named : cb.id = id := by simpa using List.find?_some found
  rw [named] at same
  unfold World.callback? World.putCallback at *
  rw [List.find?_map]
  -- replacing the callbacks of the id keeps which one is found first
  have first : ((fun c : Callback => c.id == id) ∘ fun c => if c.id == cb'.id then cb' else c) =
      fun c => c.id == id := by
    funext c
    by_cases own : c.id = id <;> simp [own, same]
  rw [first, found]
  simp [same, named]

end World

/-! ## What the silo sends again -/

namespace SiloM

variable {γ : Type}

open Async

theorem settle_tryResend (m : Message) (now : Instant) (w : World γ)
    (k : Option Message → Program (World γ) Event Proc) (next : Nat) :
    (tryResend m k).settle now next w =
      if m.resendCount < w.config.messaging.maxResendCount then
        (sendMessage m.resent fun _ => k (some m.resent)).settle now next w
      else (k none).settle now next w := by
  unfold tryResend
  rw [Runs.settle_bind (runs_get now w)]
  by_cases budget : m.resendCount < w.config.messaging.maxResendCount
  · rw [if_pos budget, if_neg (Nat.not_le.mpr budget)]
    rfl
  · rw [if_neg budget, if_pos (Nat.le_of_not_lt budget)]
    rfl

theorem settle_tryForward (m : Message) (target : Option ActivationAddress) (now : Instant)
    (w : World γ) (k : Bool → Program (World γ) Event Proc) (next : Nat) :
    (tryForward m target k).settle now next w =
      if m.forwardCount < w.config.messaging.maxForwardCount then
        (sendMessage (m.forwarded target) fun _ => k true).settle now next w
      else (k false).settle now next w := by
  unfold tryForward
  rw [Runs.settle_bind (runs_get now w)]
  by_cases budget : m.forwardCount < w.config.messaging.maxForwardCount
  · rw [if_pos budget, if_neg (Nat.not_le.mpr budget)]
    cases target <;> rfl
  · rw [if_neg budget, if_pos (Nat.le_of_not_lt budget)]
    rfl

theorem settle_forwardOrReject (m : Message) (stale : ActivationAddress) (now : Instant)
    (w : World γ) (k : Unit → Program (World γ) Event Proc) (next : Nat) :
    (forwardOrReject m stale k).settle now next w =
      if m.forwardCount < w.config.messaging.maxForwardCount then
        (sendMessage (m.forwarded none) k).settle now next w
      else
        (reject m .transient ("non-existent activation " ++ stale.render ++
          ", forward budget exhausted") k).settle now next w := by
  unfold forwardOrReject
  change (tryForward m none fun b => (if b = true then pure () else
    reject m .transient ("non-existent activation " ++ stale.render ++
      ", forward budget exhausted")) k).settle now next w = _
  rw [settle_tryForward]
  by_cases budget : m.forwardCount < w.config.messaging.maxForwardCount
  · rw [if_pos budget, if_pos budget]
    rfl
  · rw [if_neg budget, if_neg budget]
    rfl

theorem runs_tryResend (m : Message) (now : Instant) (w : World γ) :
    ∃ w' started, Runs (tryResend m : SiloM γ (Option Message)) now w
        (if m.resendCount < w.config.messaging.maxResendCount then some m.resent else none)
        w' started ∧ w'.config = w.config ∧ w'.callbacks = w.callbacks := by
  by_cases budget : m.resendCount < w.config.messaging.maxResendCount
  · obtain ⟨w', started, sent, kept⟩ := runs_sendMessage m.resent now w
    refine ⟨w', started, fun k next => ?_, kept⟩
    rw [settle_tryResend, if_pos budget, if_pos budget, sent]
  · refine ⟨w, [], fun k next => ?_, rfl, rfl⟩
    rw [settle_tryResend, if_neg budget, if_neg budget]
    rfl

theorem runs_callbackResend {w : World γ} {id : Nat} {cb : Callback}
    (found : w.callback? id = some cb) (now : Instant) :
    ∃ w' started, Runs ((callbackSite : CallbackSite (World γ) Event Proc).resend id) now w
        (decide (cb.message.resendCount < w.config.messaging.maxResendCount)) w' started ∧
      w'.callback? id = some { cb with
        message := if cb.message.resendCount < w.config.messaging.maxResendCount then
          cb.message.resent else cb.message } := by
  obtain ⟨w₁, started, tried, -, callbacks⟩ := runs_tryResend cb.message now w
  have found₁ : w₁.callback? id = some cb := by
    unfold World.callback?
    rw [callbacks]
    exact found
  by_cases budget : cb.message.resendCount < w.config.messaging.maxResendCount
  · refine ⟨w₁.putCallback { cb with message := cb.message.resent }, [] ++ (started ++ ([] ++ [])),
      (runs_get now w).bind ?_, ?_⟩
    · rw [found]
      refine tried.bind ?_
      rw [if_pos budget, decide_eq_true budget]
      -- the copy replaces the request of the callback found again after sending it
      exact (Async.runs_modify_of (by simp only [found₁])).bind (runs_pure true now _)
    · rw [if_pos budget]
      exact World.callback?_putCallback found₁ rfl
  · refine ⟨w₁, [] ++ (started ++ []), (runs_get now w).bind ?_, ?_⟩
    · rw [found]
      refine tried.bind ?_
      rw [if_neg budget, decide_eq_false budget]
      exact runs_pure false now w₁
    · rw [found₁, if_neg budget]

/-- The silo's resend hook, offered the request of the callback of `id` in a world whose messaging
settings are `config`, answers `sent` and leaves the request kept as `m`. -/
def offersUnder (γ : Type) (config : MessagingConfig) (id : Nat) (cb : Callback) (sent : Bool)
    (m : Message) : Prop :=
  ∃ (now : Instant) (w w' : World γ) (started : List (Program (World γ) Event Proc)),
    w.config.messaging = config ∧ w.callback? id = some cb ∧
    Runs ((callbackSite : CallbackSite (World γ) Event Proc).resend id) now w sent w' started ∧
    w'.callback? id = some { cb with message := m }

end SiloM

/-! ## The resend budget of a callback -/

namespace CallbackCall

def isSent : CallbackCall → Bool
  | .resend sent => sent
  | _ => false

end CallbackCall

namespace Callback

/-- A resend hook that spends a budget of `limit` resends kept in the request it is offered: it
sends only while the request was resent fewer than `limit` times, and then keeps it one resend
further; when it does not send, it keeps the count. -/
def Spends (offers : Callback → Bool → Message → Prop) (limit : Nat) : Prop :=
  ∀ {cb sent m}, offers cb sent m →
    (sent = true → cb.message.resendCount < limit ∧ m.resendCount = cb.message.resendCount + 1) ∧
    (sent = false → m.resendCount = cb.message.resendCount)

/-- Operations on a callback one after another, each moving it as `Callback.Moves` says, with the
calls they make. -/
inductive Course (offers : Callback → Bool → Message → Prop) :
    Callback → List CallbackOp → Callback → List CallbackCall → Prop
  | nil (cb : Callback) : Course offers cb [] cb []
  | cons {cb cb₁ cb₂ : Callback} {op : CallbackOp} {ops : List CallbackOp}
      {calls₁ calls₂ : List CallbackCall} :
      cb.Moves offers op cb₁ calls₁ → Course offers cb₁ ops cb₂ calls₂ →
      Course offers cb (op :: ops) cb₂ (calls₁ ++ calls₂)

variable {offers : Callback → Bool → Message → Prop} {limit : Nat} {cb cb' : Callback}
  {calls : List CallbackCall}

/-- One operation resends at most once, and then from below the budget; the request kept counts
the resends that went out. -/
theorem Moves.spends (spends : Spends offers limit) {op : CallbackOp}
    (moves : cb.Moves offers op cb' calls) :
    cb'.message.resendCount = cb.message.resendCount + calls.countP CallbackCall.isSent ∧
      (calls.countP CallbackCall.isSent = 0 ∨
        calls.countP CallbackCall.isSent = 1 ∧ cb.message.resendCount < limit) := by
  cases moves with
  | ignore => exact ⟨rfl, .inl rfl⟩
  | start => exact ⟨rfl, .inl rfl⟩
  | dispose => exact ⟨rfl, .inl rfl⟩
  | resent m _ _ offered =>
    obtain ⟨below, counted⟩ := (spends offered).1 rfl
    exact ⟨counted, .inr ⟨rfl, below⟩⟩
  | fire m reply _ _ offered _ =>
    -- firing sends nothing again, and keeps the count of the request the hook was offered
    have kept : m.resendCount = cb.message.resendCount := by
      split at offered
      · exact (spends offered).2 rfl
      · rw [offered]
    have unsent : ((if op.tries cb then [CallbackCall.resend false] else []) ++
        .unregister :: (if cb.hasSender then [CallbackCall.deliver reply] else [])).countP
          CallbackCall.isSent = 0 := by
      rw [List.countP_append, List.countP_cons]
      split <;> split <;> rfl
    rw [unsent]
    exact ⟨kept, .inl rfl⟩

/-- Over a course of operations the request kept counts every resend that went out, and never
more than the larger of its first count and the budget. -/
theorem Course.spends (spends : Spends offers limit) {ops : List CallbackOp}
    (course : cb.Course offers ops cb' calls) :
    cb'.message.resendCount = cb.message.resendCount + calls.countP CallbackCall.isSent ∧
      cb'.message.resendCount ≤ max cb.message.resendCount limit := by
  induction course with
  | nil => exact ⟨rfl, Nat.le_max_left _ _⟩
  | cons moves _ ih =>
    obtain ⟨counted, once⟩ := moves.spends spends
    obtain ⟨counted', bounded⟩ := ih
    rw [List.countP_append]
    omega

end Callback

namespace CallbackSite

variable {σ ε ι : Type} {site : CallbackSite σ ε ι} {id : Nat} (L : site.Logged id)

theorem Run.course {s s' : σ} {ops : List CallbackOp} {cb : Callback} (run : site.Run id s ops s')
    (found : site.find id s = some cb) :
    ∃ cb' calls, site.find id s' = some cb' ∧ L.log s' = L.log s ++ calls ∧
      cb.Course (site.Offers id) ops cb' calls := by
  induction run generalizing cb with
  | nil => exact ⟨cb, [], found, by simp, .nil cb⟩
  | cons step _ ih =>
    obtain ⟨cb₁, calls₁, found₁, log₁, moves⟩ := step_moves L found step
    obtain ⟨cb', calls₂, found', log', course⟩ := ih found₁
    exact ⟨cb', calls₁ ++ calls₂, found', by rw [log', log₁, List.append_assoc], .cons moves course⟩

end CallbackSite

namespace CallbackLedger

end CallbackLedger

namespace SiloM

variable {γ : Type}

/-- The silo's resend hook spends the resend budget of the silo's messaging settings. -/
theorem offersUnder_spends (config : MessagingConfig) (id : Nat) :
    Callback.Spends (offersUnder γ config id) config.maxResendCount := by
  intro cb sent m ⟨now, w, w', started, configured, found, runs, kept⟩
  obtain ⟨w'', started', runs', kept'⟩ := runs_callbackResend found now
  -- the hook runs one way: its answer and the callback it leaves are those computed
  have answer := runs.bool_eq runs'
  rw [runs.world_eq runs', kept'] at kept
  have message := congrArg Callback.message (Option.some.inj kept)
  subst configured answer
  by_cases budget : cb.message.resendCount < w.config.messaging.maxResendCount
  · simp only [if_pos budget] at message
    refine ⟨fun _ => ⟨budget, by rw [← message]; rfl⟩, fun unsent => ?_⟩
    simp [budget] at unsent
  · simp only [if_neg budget] at message
    refine ⟨fun sent => ?_, fun _ => by rw [← message]⟩
    simp [budget] at sent

end SiloM

/-- Resend and forward budgets bound every re-routing of a request. Resending a request sends the
copy one resend further exactly while the request was resent fewer times than the silo's budget,
and forwarding it sends the copy one forward further exactly while it was forwarded fewer times; a
request whose activation is gone is refused as transient once its forward budget is spent. Along
any chain of copies, each sent again from the one before, both counts stay within the larger of the
first copy's and the budget (so counts and budgets that fit a byte keep fitting it), and the chain
is no longer than the resends and forwards left to the first copy. The silo's resend hook spends
the resend budget kept in a callback's request; and on a site that logs the calls to its hooks,
whose resend hook spends a budget, any run of operations on a callback logs at most the resends
left to its request. -/
theorem reroutes_stay_within_budgets (γ : Type) :
    (∀ m now (w : World γ) (k : Option Message → Program (World γ) Event Proc) next,
      (SiloM.tryResend m k).settle now next w =
        if m.resendCount < w.config.messaging.maxResendCount then
          (SiloM.sendMessage m.resent fun _ => k (some m.resent)).settle now next w
        else (k none).settle now next w) ∧
    (∀ m target now (w : World γ) (k : Bool → Program (World γ) Event Proc) next,
      (SiloM.tryForward m target k).settle now next w =
        if m.forwardCount < w.config.messaging.maxForwardCount then
          (SiloM.sendMessage (m.forwarded target) fun _ => k true).settle now next w
        else (k false).settle now next w) ∧
    (∀ m stale now (w : World γ) (k : Unit → Program (World γ) Event Proc) next,
      w.config.messaging.maxForwardCount ≤ m.forwardCount →
      (SiloM.forwardOrReject m stale k).settle now next w =
        (SiloM.reject m .transient ("non-existent activation " ++ stale.render ++
          ", forward budget exhausted") k).settle now next w) ∧
    (∀ config n m m', Reroutes config n m m' →
      m'.resendCount ≤ max m.resendCount config.maxResendCount ∧
      m'.forwardCount ≤ max m.forwardCount config.maxForwardCount ∧ n ≤ budgetLeft config m) ∧
    (∀ config id, Callback.Spends (SiloM.offersUnder γ config id) config.maxResendCount) ∧
    (∀ {σ ε ι : Type} (site : CallbackSite σ ε ι) id (L : site.Logged id) limit,
      Callback.Spends (site.Offers id) limit → ∀ s ops s' cb, site.Run id s ops s' →
      site.find id s = some cb → ∃ cb' calls, site.find id s' = some cb' ∧
        L.log s' = L.log s ++ calls ∧
        calls.countP CallbackCall.isSent ≤ limit - cb.message.resendCount) := by
  refine ⟨SiloM.settle_tryResend, SiloM.settle_tryForward, ?_, ?_, SiloM.offersUnder_spends,
    fun site id L limit spends s ops s' cb run found => ?_⟩
  · intro m stale now w k next spent
    rw [SiloM.settle_forwardOrReject, if_neg (Nat.not_lt.mpr spent)]
  · intro config n m m' chain
    obtain ⟨resends, forwards, spent⟩ := chain.within
    exact ⟨resends, forwards, by omega⟩
  · obtain ⟨cb', calls, found', log', course⟩ := run.course L found
    obtain ⟨counted, bounded⟩ := course.spends spends
    exact ⟨cb', calls, found', log', by omega⟩

end ActorSilo
