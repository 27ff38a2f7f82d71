import ActorSilo.Proofs.Settle
import ActorSilo.Request.Callback

/-! # A callback hands over one outcome

The callback of an outstanding request is reached by its timer and by responses, in any order,
and must hand its caller exactly one outcome. Its code calls three hooks of the site that keeps
it (resend, removal from its owner's table, hand-over of a reply); a `Logged` site notes each
call. `Callback.Moves` says once what one operation may do to the callback and which calls it
makes.

**Main results:** `CallbackSite.step_moves`, `Callback.Tracks.moves`, and
`CallbackSite.callback_hands_over_one_outcome` along any sequence of operations.
-/

namespace ActorSilo

/-- A call the code of a callback makes to the site that keeps it. -/
inductive CallbackCall where
  /-- The request was offered to the resend hook, which sent it again or not. -/
  | resend (sent : Bool)
  /-- The callback was removed from its owner's table. -/
  | unregister
  /-- A reply was handed to the caller. -/
  | deliver (reply : Message)

namespace CallbackCall

def IsResend (c : CallbackCall) : Prop := ∃ sent, c = .resend sent

def isUnregister : CallbackCall → Bool
  | .unregister => true
  | _ => false

def isDelivery : CallbackCall → Bool
  | .deliver _ => true
  | _ => false

end CallbackCall

/-- An operation on the callback of a request. -/
inductive CallbackOp where
  | startTimer
  | tick
  | respond (response : Message)
  | dispose

namespace CallbackOp

def fires : CallbackOp → Bool
  | .tick | .respond _ => true
  | _ => false

/-- Whether the operation offers the request of the pending callback `cb` to the resend hook
before firing it: a transient rejection does, and so does a tick when resending on timeout
is on. -/
def tries (cb : Callback) : CallbackOp → Bool
  | .respond r => r.rejectionKind == some .transient
  | .tick => cb.config.resendOnTimeout
  | _ => false

/-- `reply` is what the operation hands over when it fires `cb`: the response itself, or a
timeout response to the request. -/
def Answers (cb : Callback) (reply : Message) : CallbackOp → Prop
  | .respond r => reply = r
  | .tick => ∃ now, reply = cb.timeoutReply now
  | _ => False

end CallbackOp

namespace Callback

/-- The callback as completing leaves it: fired, with no timer and no reply channel. -/
def completed (cb : Callback) : Callback := { cb with fired := true, timer := none, hasSender := false }

@[simp] theorem completed_fired (cb : Callback) : cb.completed.fired = true := rfl

@[simp] theorem completed_hasSender (cb : Callback) : cb.completed.hasSender = false := rfl

@[simp] theorem completed_timer (cb : Callback) : cb.completed.timer = none := rfl

/-- What one operation may do to a callback `cb`, leaving `cb'` and making the calls `calls`
to its site, where `offers cb sent m` says what the resend hook may do when offered the request
of `cb`: answer `sent` and leave the request kept as `m`. -/
inductive Moves (offers : Callback → Bool → Message → Prop) :
    Callback → CallbackOp → Callback → List CallbackCall → Prop
  /-- A fired callback ignores ticks and responses, and keeps no new timer. -/
  | ignore {cb : Callback} {op : CallbackOp} : cb.fired = true → op ≠ .dispose →
      Moves offers cb op cb []
  /-- A pending callback keeps the timer just started. -/
  | start {cb : Callback} (task : Nat) : cb.fired = false →
      Moves offers cb .startTimer { cb with timer := some task } []
  | dispose {cb : Callback} : Moves offers cb .dispose { cb with timer := none } []
  /-- The resend hook sent the request again: the callback stays pending. -/
  | resent {cb : Callback} {op : CallbackOp} (m : Message) : cb.fired = false →
      op.tries cb = true → offers cb true m →
      Moves offers cb op { cb with message := m } [.resend true]
  /-- The callback fires with `reply`, after the resend hook, when offered the request, did not
  send it: it is removed from its owner's table, and the reply goes to the caller if the channel
  is still there. -/
  | fire {cb : Callback} {op : CallbackOp} (m reply : Message) : cb.fired = false →
      op.fires = true → (if op.tries cb then offers cb false m else m = cb.message) →
      op.Answers { cb with message := m } reply →
      Moves offers cb op { cb with message := m }.completed
        ((if op.tries cb then [.resend false] else []) ++
          .unregister :: (if cb.hasSender then [.deliver reply] else []))

/-- The calls made for a callback, against whether it fired: offers to the resend hook while it
is pending; once it fired, those followed by its removal from its owner's table and one reply,
and nothing after. -/
inductive CallLog : Bool → List CallbackCall → Prop
  | pending {calls : List CallbackCall} : (∀ c ∈ calls, c.IsResend) → CallLog false calls
  | fired {calls : List CallbackCall} (reply : Message) : (∀ c ∈ calls, c.IsResend) →
      CallLog true (calls ++ [.unregister, .deliver reply])

/-- The state of a callback in step with the calls made for it: it holds the reply channel
exactly while it has not fired, once fired it holds no timer, and the calls are those
`CallLog` allows. -/
structure Tracks (cb : Callback) (calls : List CallbackCall) : Prop where
  sender : cb.hasSender = !cb.fired
  timer : cb.fired = true → cb.timer = none
  log : CallLog cb.fired calls

theorem countP_resends (p : CallbackCall → Bool)
    (never : p (.resend true) = false ∧ p (.resend false) = false)
    {calls : List CallbackCall} (resends : ∀ c ∈ calls, c.IsResend) : calls.countP p = 0 := by
  refine List.countP_eq_zero.mpr fun c member => ?_
  obtain ⟨sent, rfl⟩ := resends c member
  cases sent <;> simp [never.1, never.2]

theorem CallLog.unregisters {fired : Bool} {calls : List CallbackCall} (log : CallLog fired calls) :
    calls.countP CallbackCall.isUnregister = if fired then 1 else 0 := by
  cases log with
  | pending resends => simp [countP_resends CallbackCall.isUnregister ⟨rfl, rfl⟩ resends]
  | fired reply resends =>
    rw [List.countP_append, countP_resends CallbackCall.isUnregister ⟨rfl, rfl⟩ resends]
    rfl

theorem CallLog.deliveries {fired : Bool} {calls : List CallbackCall} (log : CallLog fired calls) :
    calls.countP CallbackCall.isDelivery = if fired then 1 else 0 := by
  cases log with
  | pending resends => simp [countP_resends CallbackCall.isDelivery ⟨rfl, rfl⟩ resends]
  | fired reply resends =>
    rw [List.countP_append, countP_resends CallbackCall.isDelivery ⟨rfl, rfl⟩ resends]
    rfl

/-- Every move keeps the state of a callback in step with its calls. -/
theorem Tracks.moves {offers : Callback → Bool → Message → Prop} {cb cb' : Callback}
    {op : CallbackOp} {log calls : List CallbackCall} (tracks : cb.Tracks log)
    (moves : cb.Moves offers op cb' calls) : cb'.Tracks (log ++ calls) := by
  cases moves with
  | ignore fired _ => simpa using tracks
  | start task pending => exact ⟨tracks.sender, by simp [pending], by simpa using tracks.log⟩
  | dispose => exact ⟨tracks.sender, fun _ => rfl, by simpa using tracks.log⟩
  | resent m pending _ _ =>
    refine ⟨tracks.sender, by simp [pending], ?_⟩
    have log := tracks.log
    rw [pending] at log
    cases log with
    | pending resends =>
      show CallLog cb.fired _
      rw [pending]
      refine .pending fun c member => ?_
      rcases List.mem_append.mp member with old | new
      · exact resends c old
      · exact ⟨true, List.mem_singleton.mp new⟩
  | fire m reply pending _ _ _ =>
    -- a pending callback still holds its channel, so the reply goes out
    have sender : cb.hasSender = true := by simpa [pending] using tracks.sender
    have log := tracks.log
    rw [pending] at log
    cases log with
    | pending resends =>
      refine ⟨rfl, fun _ => rfl, ?_⟩
      rw [sender, if_pos rfl, ← List.append_assoc]
      refine .fired reply fun c member => ?_
      rcases List.mem_append.mp member with old | new
      · exact resends c old
      · split at new
        · exact ⟨false, List.mem_singleton.mp new⟩
        · cases new

theorem Tracks.still {offers : Callback → Bool → Message → Prop} {cb cb' : Callback}
    {op : CallbackOp} {log calls : List CallbackCall} (tracks : cb.Tracks log) (fired : cb.fired = true)
    (moves : cb.Moves offers op cb' calls) : cb' = cb ∧ calls = [] := by
  cases moves with
  | ignore => exact ⟨rfl, rfl⟩
  | start _ pending => simp [fired] at pending
  | dispose => exact ⟨by rw [← tracks.timer fired], rfl⟩
  | resent _ pending _ _ => simp [fired] at pending
  | fire _ _ pending _ _ _ => simp [fired] at pending

end Callback

/-! ## The code, against a site that logs its hooks -/

namespace CallbackSite

variable {σ ε ι : Type} (site : CallbackSite σ ε ι)

open Async

/-- The code of an operation on the callback of `id`. -/
def perform (id : Nat) : CallbackOp → Async σ ε ι Unit
  | .startTimer => site.startTimer id
  | .tick => site.onTimeout id
  | .respond r => site.respond id r
  | .dispose => site.dispose id

/-- An operation on the callback of `id` runs through at some instant, the tasks it starts
numbered from some point on, taking `s` to `s'`. -/
def Step (id : Nat) (s : σ) (op : CallbackOp) (s' : σ) : Prop :=
  ∃ now next started, ((site.perform id op).toProgram).settle now next s = ⟨s', started, none⟩

/-- Operations on the callback of `id`, one after another. -/
inductive Run (id : Nat) : σ → List CallbackOp → σ → Prop
  | nil (s : σ) : Run id s [] s
  | cons {s s₁ s₂ : σ} {op : CallbackOp} {ops : List CallbackOp} :
      site.Step id s op s₁ → Run id s₁ ops s₂ → Run id s (op :: ops) s₂

/-- The resend hook, offered the request of the callback `cb` of `id`, may answer `sent` and leave
the request kept as `m`. -/
def Offers (id : Nat) (cb : Callback) (sent : Bool) (m : Message) : Prop :=
  ∃ now s s' started, site.find id s = some cb ∧ Runs (site.resend id) now s sent s' started ∧
    site.find id s' = some { cb with message := m }

/-- A site that keeps the callback of `id` as its code leaves it and logs the calls to its
hooks: the callback found carries `id`, a stored callback replaces it, and each hook runs through
without giving up the thread, notes its call, and leaves the callback alone, except that the
resend hook may change the request kept. -/
structure Logged (id : Nat) where
  /-- The calls made so far for the callback. -/
  log : σ → List CallbackCall
  found_id : ∀ {s : σ} {cb : Callback}, site.find id s = some cb → cb.id = id
  find_store : ∀ {s : σ} {cb : Callback} (cb' : Callback), site.find id s = some cb →
    cb'.id = cb.id → site.find id (site.store cb' s) = some cb'
  log_store : ∀ (s : σ) (cb : Callback), log (site.store cb s) = log s
  resend : ∀ (now : Instant) {s : σ} {cb : Callback}, site.find id s = some cb →
    ∃ sent s' started m, Runs (site.resend id) now s sent s' started ∧
      site.find id s' = some { cb with message := m } ∧ log s' = log s ++ [.resend sent]
  unregister : ∀ (now : Instant) (s : σ), ∃ s' started,
    Runs (site.unregister id) now s () s' started ∧ site.find id s' = site.find id s ∧
      log s' = log s ++ [.unregister]
  deliver : ∀ (now : Instant) (s : σ) (m : Message), ∃ s' started,
    Runs (site.deliver id m) now s () s' started ∧ site.find id s' = site.find id s ∧
      log s' = log s ++ [.deliver m]

theorem runs_get? (id : Nat) (now : Instant) (s : σ) :
    Runs (site.get? id) now s (site.find id s) s [] := by
  intro k next
  rfl

theorem runs_complete (cb : Callback) (now : Instant) (s : σ) :
    Runs (site.complete cb) now s cb.hasSender (site.store cb.completed s) [] := by
  intro k next
  unfold complete
  cases cb.timer <;> rfl

variable {site} {id : Nat} (L : site.Logged id)

theorem runs_fire {s : σ} {cb : Callback} (found : site.find id s = some cb) (reply : Message)
    (now : Instant) :
    ∃ s' started, Runs (site.complete cb >>= fun hadSender => site.unregister cb.id >>= fun _ =>
        if hadSender then site.deliver cb.id reply else pure ()) now s () s' started ∧
      site.find id s' = some cb.completed ∧
      L.log s' = L.log s ++ .unregister :: (if cb.hasSender then [.deliver reply] else []) := by
  have own : cb.id = id := L.found_id found
  have stored := L.find_store cb.completed found rfl
  obtain ⟨s₁, st₁, unregistered, found₁, log₁⟩ := L.unregister now (site.store cb.completed s)
  cases sender : cb.hasSender with
  | false =>
    refine ⟨s₁, [] ++ (st₁ ++ []), (site.runs_complete cb now s).bind ?_, ?_, ?_⟩
    · rw [sender, own]
      exact unregistered.bind (runs_pure () now s₁)
    · rw [found₁, stored]
    · simp [log₁, L.log_store]
  | true =>
    obtain ⟨s₂, st₂, delivered, found₂, log₂⟩ := L.deliver now s₁ reply
    refine ⟨s₂, [] ++ (st₁ ++ st₂), (site.runs_complete cb now s).bind ?_, ?_, ?_⟩
    · rw [sender, own]
      exact unregistered.bind delivered
    · rw [found₂, found₁, stored]
    · simp [log₂, log₁, L.log_store]

theorem respond_moves {s : σ} {cb : Callback} (found : site.find id s = some cb) (r : Message)
    (now : Instant) :
    ∃ cb' calls s' started, Runs (site.respond id r) now s () s' started ∧
      site.find id s' = some cb' ∧ L.log s' = L.log s ++ calls ∧
      cb.Moves (site.Offers id) (.respond r) cb' calls := by
  unfold respond
  cases fired : cb.fired with
  | true =>
    refine ⟨cb, [], s, [] ++ [], (site.runs_get? id now s).bind ?_, found, by simp,
      .ignore fired CallbackOp.noConfusion⟩
    rw [found]
    dsimp only
    rw [if_pos fired]
    exact runs_pure () now s
  | false =>
    cases transient : (r.rejectionKind == some .transient) with
    | true =>
      obtain ⟨sent, s₁, st₁, m, resent, found₁, log₁⟩ := L.resend now found
      cases sent with
      | true =>
        refine ⟨_, _, s₁, [] ++ (st₁ ++ []), (site.runs_get? id now s).bind ?_, found₁, log₁,
          .resent m fired transient ⟨now, s, s₁, st₁, found, resent, found₁⟩⟩
        rw [found]
        dsimp only
        rw [if_neg (by simp [fired]), if_pos rfl]
        exact resent.bind (runs_pure () now s₁)
      | false =>
        obtain ⟨s₂, st₂, fired₂, found₂, log₂⟩ := runs_fire L found₁ r now
        refine ⟨_, _, s₂, [] ++ (st₁ ++ ([] ++ st₂)), (site.runs_get? id now s).bind ?_, found₂,
          by simp [log₂, log₁, CallbackOp.tries, transient],
          .fire m r fired rfl (by
            rw [if_pos (show (CallbackOp.respond r).tries cb = true from transient)]
            exact ⟨now, s, s₁, st₁, found, resent, found₁⟩) rfl⟩
        rw [found]
        dsimp only
        rw [if_neg (by simp [fired]), if_pos rfl]
        refine resent.bind ?_
        rw [if_neg (by simp)]
        exact (site.runs_get? id now s₁).bind (by rw [found₁]; exact fired₂)
    | false =>
      obtain ⟨s₂, st₂, fired₂, found₂, log₂⟩ := runs_fire L found r now
      refine ⟨_, _, s₂, [] ++ ([] ++ st₂), (site.runs_get? id now s).bind ?_, found₂,
        by simp [log₂, CallbackOp.tries, transient],
        .fire cb.message r fired rfl (by simp [CallbackOp.tries, transient]) rfl⟩
      rw [found]
      dsimp only
      rw [if_neg (by simp [fired]), if_neg Bool.false_ne_true]
      exact (site.runs_get? id now s).bind (by rw [found]; exact fired₂)

theorem tick_moves {s : σ} {cb : Callback} (found : site.find id s = some cb) (now : Instant) :
    ∃ cb' calls s' started, Runs (site.onTimeout id) now s () s' started ∧
      site.find id s' = some cb' ∧ L.log s' = L.log s ++ calls ∧
      cb.Moves (site.Offers id) .tick cb' calls := by
  unfold onTimeout
  cases fired : cb.fired with
  | true =>
    refine ⟨cb, [], s, [] ++ [], (site.runs_get? id now s).bind ?_, found, by simp,
      .ignore fired CallbackOp.noConfusion⟩
    rw [found]
    dsimp only
    rw [if_pos fired]
    exact runs_pure () now s
  | false =>
    cases resending : cb.config.resendOnTimeout with
    | true =>
      obtain ⟨sent, s₁, st₁, m, resent, found₁, log₁⟩ := L.resend now found
      cases sent with
      | true =>
        refine ⟨_, _, s₁, [] ++ (st₁ ++ []), (site.runs_get? id now s).bind ?_, found₁, log₁,
          .resent m fired resending ⟨now, s, s₁, st₁, found, resent, found₁⟩⟩
        rw [found]
        dsimp only
        rw [if_neg (by simp [fired]), if_pos resending]
        exact resent.bind (runs_pure () now s₁)
      | false =>
        obtain ⟨s₂, st₂, fired₂, found₂, log₂⟩ :=
          runs_fire L found₁ ({ cb with message := m }.timeoutReply now) now
        refine ⟨_, _, s₂, [] ++ (st₁ ++ ([] ++ ([] ++ st₂))), (site.runs_get? id now s).bind ?_,
          found₂, by simp [log₂, log₁, CallbackOp.tries, resending],
          .fire m _ fired rfl (by
            rw [if_pos (show CallbackOp.tick.tries cb = true from resending)]
            exact ⟨now, s, s₁, st₁, found, resent, found₁⟩) ⟨now, rfl⟩⟩
        rw [found]
        dsimp only
        rw [if_neg (by simp [fired]), if_pos resending]
        refine resent.bind ?_
        rw [if_neg (by simp)]
        refine (site.runs_get? id now s₁).bind ?_
        rw [found₁]
        exact (runs_now now s₁).bind fired₂
    | false =>
      obtain ⟨s₂, st₂, fired₂, found₂, log₂⟩ := runs_fire L found (cb.timeoutReply now) now
      refine ⟨_, _, s₂, [] ++ ([] ++ ([] ++ st₂)), (site.runs_get? id now s).bind ?_, found₂,
        by simp [log₂, CallbackOp.tries, resending],
        .fire cb.message _ fired rfl (by simp [CallbackOp.tries, resending]) ⟨now, rfl⟩⟩
      rw [found]
      dsimp only
      rw [if_neg (by simp [fired]), if_neg (by simp [resending])]
      refine (site.runs_get? id now s).bind ?_
      rw [found]
      exact (runs_now now s).bind fired₂

theorem dispose_moves {s : σ} {cb : Callback} (found : site.find id s = some cb) (now : Instant) :
    ∃ cb' s', Runs (site.dispose id) now s () s' [] ∧
      site.find id s' = some cb' ∧ L.log s' = L.log s ∧ cb.Moves (site.Offers id) .dispose cb' [] := by
  refine ⟨{ cb with timer := none }, site.store { cb with timer := none } s, ?_,
    L.find_store _ found rfl, L.log_store s _, .dispose⟩
  intro k next
  unfold dispose
  rw [Runs.settle_bind (site.runs_get? id now s), found]
  dsimp only
  cases cb.timer <;> rfl

theorem settle_spawn_bind {β : Type} (child : Async σ ε ι Unit) (f : Nat → Async σ ε ι β)
    (k : β → Program σ ε ι) (now : Instant) (next : Nat) (s : σ) :
    ((Async.spawn child >>= f) k).settle now next s =
      ((f next k).settle now (next + 1) s).after [child.toProgram] := rfl

theorem startTimer_moves {s : σ} {cb : Callback} (found : site.find id s = some cb) (now : Instant)
    (next : Nat) :
    ∃ cb' s' started, ((site.startTimer id).toProgram).settle now next s = ⟨s', started, none⟩ ∧
      site.find id s' = some cb' ∧ L.log s' = L.log s ∧ cb.Moves (site.Offers id) .startTimer cb' [] := by
  unfold startTimer Async.toProgram
  rw [Runs.settle_bind (site.runs_get? id now s), found]
  dsimp only
  rw [settle_spawn_bind, Runs.settle_bind (site.runs_get? id now s), found]
  dsimp only
  rcases Bool.eq_false_or_eq_true cb.fired with fired | fired
  · rw [if_pos fired]
    exact ⟨cb, s, _, rfl, found, rfl, .ignore fired CallbackOp.noConfusion⟩
  · rw [if_neg (by simp [fired])]
    refine ⟨{ cb with timer := some next }, site.store { cb with timer := some next } s,
      [(site.firstTick id cb.config.timerPeriod).toProgram], ?_, L.find_store _ found rfl,
      L.log_store s _, .start next fired⟩
    cases cb.timer <;> rfl

/-- Every operation on the callback moves it as `Callback.Moves` says, and logs the calls it makes. -/
theorem step_moves {s s' : σ} {cb : Callback} {op : CallbackOp} (found : site.find id s = some cb)
    (step : site.Step id s op s') :
    ∃ cb' calls, site.find id s' = some cb' ∧ L.log s' = L.log s ++ calls ∧
      cb.Moves (site.Offers id) op cb' calls := by
  obtain ⟨now, next, started, settled⟩ := step
  -- the code settles in one way only, so the world it reaches is the one the lemmas describe
  have reaches {s'' : σ} {st : List (Program σ ε ι)}
      (settles : ((site.perform id op).toProgram).settle now next s = ⟨s'', st, none⟩) : s' = s'' :=
    congrArg Settled.world (settled.symm.trans settles)
  cases op with
  | startTimer =>
    obtain ⟨cb', s'', st, settles, found', log', moves⟩ := startTimer_moves L found now next
    rw [reaches settles]
    exact ⟨cb', [], found', by simp [log'], moves⟩
  | tick =>
    obtain ⟨cb', calls, s'', st, runs, found', log', moves⟩ := tick_moves L found now
    rw [reaches (runs.toProgram next)]
    exact ⟨cb', calls, found', log', moves⟩
  | respond r =>
    obtain ⟨cb', calls, s'', st, runs, found', log', moves⟩ := respond_moves L found r now
    rw [reaches (runs.toProgram next)]
    exact ⟨cb', calls, found', log', moves⟩
  | dispose =>
    obtain ⟨cb', s'', runs, found', log', moves⟩ := dispose_moves L found now
    rw [reaches (runs.toProgram next)]
    exact ⟨cb', [], found', by simp [log'], moves⟩

theorem Run.tracks {s s' : σ} {cb : Callback} {ops : List CallbackOp}
    (run : site.Run id s ops s') (found : site.find id s = some cb) (tracks : cb.Tracks (L.log s)) :
    ∃ cb', site.find id s' = some cb' ∧ cb'.Tracks (L.log s') := by
  induction run generalizing cb with
  | nil => exact ⟨cb, found, tracks⟩
  | cons step _ ih =>
    obtain ⟨cb₁, calls, found₁, log₁, moves⟩ := step_moves L found step
    exact ih found₁ (log₁ ▸ tracks.moves moves)

/-- A callback hands its caller one outcome. Whatever operations run on a fresh callback, and in
whatever order: the calls made for it are offers to the resend hook while it is pending, then,
when it fires, one removal from its owner's table and one reply, and nothing after; it holds its
reply channel exactly while it has not fired. Every further operation moves it as
`Callback.Moves` says: a transient rejection, or a tick with resending on, leaves it pending
exactly when the resend hook sent the request again; any other response or tick fires it; and
once it fired, nothing changes it any more. -/
theorem callback_hands_over_one_outcome {s₀ s : σ} {cb₀ : Callback} {ops : List CallbackOp}
    (found₀ : site.find id s₀ = some cb₀) (fresh : cb₀.fired = false ∧ cb₀.hasSender = true)
    (unlogged : L.log s₀ = []) (run : site.Run id s₀ ops s) :
    ∃ cb, site.find id s = some cb ∧ cb.Tracks (L.log s) ∧
      (L.log s).countP CallbackCall.isUnregister = (if cb.fired then 1 else 0) ∧
      (L.log s).countP CallbackCall.isDelivery = (if cb.fired then 1 else 0) ∧
      ∀ op s', site.Step id s op s' → ∃ cb' calls, site.find id s' = some cb' ∧
        L.log s' = L.log s ++ calls ∧ cb.Moves (site.Offers id) op cb' calls ∧
        (cb.fired = true → cb' = cb ∧ calls = []) := by
  have tracks₀ : cb₀.Tracks (L.log s₀) := by
    refine ⟨by simp [fresh.1, fresh.2], by simp [fresh.1], ?_⟩
    rw [fresh.1, unlogged]
    exact .pending fun _ member => (List.not_mem_nil member).elim
  obtain ⟨cb, found, tracks⟩ := run.tracks L found₀ tracks₀
  refine ⟨cb, found, tracks, tracks.log.unregisters, tracks.log.deliveries, fun op s' step => ?_⟩
  obtain ⟨cb', calls, found', log', moves⟩ := step_moves L found step
  exact ⟨cb', calls, found', log', moves, fun fired => tracks.still fired moves⟩

end CallbackSite

/-! ## A site that keeps one callback and logs its hooks -/

/-- A world that holds one callback and the calls made for it. -/
structure CallbackLedger where
  callback : Callback
  calls : List CallbackCall := []

namespace CallbackLedger

/-- The site of a ledger, whose resend hook sends the request again, with one resend more,
while it has had fewer than `limit`. -/
def site (limit : Nat) : CallbackSite CallbackLedger Unit Unit where
  find id l := if l.callback.id = id then some l.callback else none
  store cb l := { l with callback := cb }
  resend _ := Async.update fun _ l =>
    if l.callback.message.resendCount < limit then
      ({ callback := { l.callback with message :=
            { l.callback.message with resendCount := l.callback.message.resendCount + 1 } },
          calls := l.calls ++ [.resend true] }, true)
    else ({ l with calls := l.calls ++ [.resend false] }, false)
  unregister _ := Async.modify fun l => { l with calls := l.calls ++ [.unregister] }
  deliver _ m := Async.modify fun l => { l with calls := l.calls ++ [.deliver m] }
  tick _ _ _ := ()

theorem find_site {limit id : Nat} {l : CallbackLedger} {cb : Callback}
    (found : (site limit).find id l = some cb) : l.callback = cb ∧ cb.id = id := by
  simp only [site] at found
  split at found
  · cases found
    exact ⟨rfl, by assumption⟩
  · cases found

def logged (limit id : Nat) : (site limit).Logged id where
  log := calls
  found_id found := (find_site found).2
  find_store := by
    intro l cb cb' found same
    obtain ⟨_, own⟩ := find_site found
    simp [site, same, own]
  log_store _ _ := rfl
  resend := by
    intro now l cb found
    obtain ⟨rfl, own⟩ := find_site found
    by_cases budget : l.callback.message.resendCount < limit
    · let m := { l.callback.message with resendCount := l.callback.message.resendCount + 1 }
      refine ⟨true, { callback := { l.callback with message := m }, calls := l.calls ++ [.resend true] },
        [], m, fun k next => ?_, by simp [site, own], rfl⟩
      simp only [site, Async.update, Program.settle_read, budget, if_true]
      rfl
    · refine ⟨false, { l with calls := l.calls ++ [.resend false] }, [], l.callback.message,
        fun k next => ?_, found, rfl⟩
      simp only [site, Async.update, Program.settle_read, budget, if_false]
      rfl
  unregister now l := ⟨_, [], Async.runs_modify _ now l, rfl, rfl⟩
  deliver now l _ := ⟨_, [], Async.runs_modify _ now l, rfl, rfl⟩

/-- A ledger holding the fresh callback of request 7, with the default policy. -/
def fresh : CallbackLedger :=
  { callback :=
      Callback.make (Message.request 7 ⟨1, "target", .grain⟩ 1 1 []) (CallbackConfig.ofMessaging {}) 0 }

end CallbackLedger

/-- The request of `CallbackLedger.fresh`. -/
def ledgerRequest : Message := Message.request 7 ⟨1, "target", .grain⟩ 1 1 []

/-- The timer of the callback started, then a transient rejection, which the resend hook answers
by sending the request again, then a success. -/
def ledgerOps : List CallbackOp :=
  [.startTimer, .respond (ledgerRequest.createRejection .transient "busy"),
    .respond (ledgerRequest.createResponse (.success [1]))]

open CallbackLedger in
/-- Along `ledgerOps` the callback is resent once, then fires on the success: it is removed once
and hands the reply over once, and nothing moves it after. -/
theorem ledger_hands_over_one_outcome :
    ∃ s, (site 2).find 7 fresh = some fresh.callback ∧
      (fresh.callback.fired = false ∧ fresh.callback.hasSender = true) ∧
      (logged 2 7).log fresh = [] ∧ (site 2).Run 7 fresh ledgerOps s ∧
      (logged 2 7).log s =
        [.resend true, .unregister, .deliver (ledgerRequest.createResponse (.success [1]))] ∧
      ∃ cb, (site 2).find 7 s = some cb ∧ cb.Tracks ((logged 2 7).log s) ∧
        ((logged 2 7).log s).countP CallbackCall.isUnregister = (if cb.fired then 1 else 0) ∧
        ((logged 2 7).log s).countP CallbackCall.isDelivery = (if cb.fired then 1 else 0) ∧
        ∀ op s', (site 2).Step 7 s op s' → ∃ cb' calls, (site 2).find 7 s' = some cb' ∧
          (logged 2 7).log s' = (logged 2 7).log s ++ calls ∧
          cb.Moves ((site 2).Offers 7) op cb' calls ∧ (cb.fired = true → cb' = cb ∧ calls = []) := by
  obtain ⟨s, run, log⟩ : ∃ s, (site 2).Run 7 fresh ledgerOps s ∧ (logged 2 7).log s =
      [.resend true, .unregister, .deliver (ledgerRequest.createResponse (.success [1]))] :=
    ⟨_, .cons ⟨0, 0, _, rfl⟩ (.cons ⟨0, 0, _, rfl⟩ (.cons ⟨0, 0, _, rfl⟩ (.nil _))), rfl⟩
  exact ⟨s, rfl, ⟨rfl, rfl⟩, rfl, run, log,
    CallbackSite.callback_hands_over_one_outcome (logged 2 7) rfl ⟨rfl, rfl⟩ rfl run⟩

end ActorSilo
