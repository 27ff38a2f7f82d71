import ActorSilo.Executor.Program
import ActorSilo.Config.Basic
import ActorSilo.Message.Basic

/-! # Callbacks of outstanding requests

A callback follows one request that waits for its response, and exactly one of "a response
arrived" and "the timer gave up" completes it. A transient rejection of a request that may be
sent again leaves it pending; a tick resends while the policy allows and otherwise completes it
with a timeout. Completing takes the reply channel, stops the timer, leaves the owner's table and
sends the reply. A `CallbackSite` says where a world keeps its callbacks and how they act on it.
-/

namespace ActorSilo

/-- An outstanding request and how its response is awaited. -/
structure Callback where
  id : Nat
  config : CallbackConfig
  started : Instant
  message : Message
  /-- A response or a timeout completed the callback. -/
  fired : Bool := false
  timer : Option Nat := none
  /-- The reply channel has not been used or dropped. -/
  hasSender : Bool := true
  deriving Inhabited

namespace Callback

/-- The callback of a request, made at `now`. -/
def make (m : Message) (config : CallbackConfig) (now : Instant) : Callback :=
  { id := m.id, config, started := now, message := m }

/-- The timeout response to the request, `now`. -/
def timeoutReply (cb : Callback) (now : Instant) : Message :=
  cb.message.createResponse (.fault (.timeout (now.since cb.started)))

/-- `CallbackData { id: CorrelationId(7), config: CallbackConfig { … }, completed: false }`. -/
def structural (cb : Callback) : String :=
  "CallbackData \x7b id: CorrelationId(" ++ toString cb.id ++ "), config: " ++ cb.config.structural ++
    ", completed: " ++ toString cb.fired ++ " \x7d"

end Callback

/-- Where a world keeps its callbacks and what it does for them. -/
structure CallbackSite (σ ε ι : Type) where
  /-- The callback of a correlation id, while someone holds it. -/
  find : Nat → σ → Option Callback
  store : Callback → σ → σ
  /-- Tries to send the request of a callback again; true when it was sent. -/
  resend : Nat → Async σ ε ι Bool
  /-- Removes a callback from its owner's table. -/
  unregister : Nat → Async σ ε ι Unit
  /-- Hands a reply to the caller waiting on a callback. -/
  deliver : Nat → Message → Async σ ε ι Unit
  /-- The procedure that waits for a timer tick at the given instant and handles it. -/
  tick : Nat → Instant → Duration → ι

namespace CallbackSite

variable {σ ε ι : Type} (site : CallbackSite σ ε ι)

/-- The callback of `id`, read from the world. -/
def get? (id : Nat) : Async σ ε ι (Option Callback) := do
  pure (site.find id (← Async.get))

/-- Marks the callback completed, stops its timer and takes its reply channel: true when
the channel was still there. -/
def complete (cb : Callback) : Async σ ε ι Bool := do
  Async.modify (site.store { cb with fired := true, timer := none, hasSender := false })
  if let some t := cb.timer then Async.cancel t
  pure cb.hasSender

/-- A timer tick, or an explicit timeout: resend while allowed, else complete with a
timeout response. -/
def onTimeout (id : Nat) : Async σ ε ι Unit := do
  let some cb ← site.get? id | pure ()
  if cb.fired then return
  if cb.config.resendOnTimeout then
    if ← site.resend id then return
  let some cb ← site.get? id | pure ()
  let reply := cb.timeoutReply (← Async.now)
  let hadSender ← site.complete cb
  site.unregister cb.id
  if hadSender then site.deliver cb.id reply

def respond (id : Nat) (response : Message) : Async σ ε ι Unit := do
  let some cb ← site.get? id | pure ()
  if cb.fired then return
  if response.rejectionKind == some .transient then
    if ← site.resend id then return
  let some cb ← site.get? id | pure ()
  let hadSender ← site.complete cb
  site.unregister cb.id
  if hadSender then site.deliver cb.id response

def dispose (id : Nat) : Async σ ε ι Unit := do
  let some cb ← site.get? id | pure ()
  Async.modify (site.store { cb with timer := none })
  if let some t := cb.timer then Async.cancel t

/-- The first round of a timer task: the first tick is one period after the task first
runs. A zero period, or a first tick past the end of the clock, fails the task. -/
def firstTick (id : Nat) (period : Duration) : Async σ ε ι Unit := do
  match (← Async.now).after period with
  | .ok first =>
    if period.isZero then Async.panic "period must be non-zero"
    Async.call (site.tick id first period)
  | .error _ => Async.panic ClockOverflow.message

/-- One round of a timer task: wait for the tick, handle it, and go on while the
callback repeats and is pending. -/
def tickRound (id : Nat) (due : Instant) (period : Duration) : Async σ ε ι Unit := do
  Async.sleepUntil due
  let next := due.nextTick (← Async.now) period
  let some _ ← site.get? id | pure ()
  site.onTimeout id
  let some cb ← site.get? id | pure ()
  if !cb.config.repeats || cb.fired then return
  Async.call (site.tick id next period)

/-- Starts the timer: a task that ticks as the policy says. A callback already
completed gets no timer; a timer started again replaces the earlier one. -/
def startTimer (id : Nat) : Async σ ε ι Unit := do
  let some cb ← site.get? id | pure ()
  let task ← Async.spawn (site.firstTick id cb.config.timerPeriod)
  let some cb ← site.get? id | pure ()
  if cb.fired then Async.cancel task
  else
    Async.modify (site.store { cb with timer := some task })
    if let some previous := cb.timer then Async.cancel previous

end CallbackSite

end ActorSilo
