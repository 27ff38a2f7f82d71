import ActorSilo.Proofs.CallbackFiring
import ActorSilo.Proofs.CatalogLookup
import ActorSilo.Proofs.StaleScan
import ActorSilo.Scenario.Callback

/-! # When a callback's timer resends and times out

The timer of a callback first runs at `t₁` and fails at once on a zero period or a first tick
past the end of the clock (`CallbackSite.timerStart`); its rounds are due at `t₁ + j·p` however
late each wakes (`CallbackSite.roundWork`). On the desk of the callback scenario, a pending
callback that resends on timeout with `k` resends left has exactly `k + 1` rounds: `k` resends,
then a timeout response (`Desk.ticks_iff`).

**Main result:** `Desk.timer_times_out_within_timeout`.
-/

namespace ActorSilo

theorem Duration.isZero_iff_toNanos {d : Duration} : d.isZero = true ↔ d.toNanos = 0 := by
  refine ⟨Duration.toNanos_of_isZero, fun zero => ?_⟩
  simp only [Duration.toNanos, nanosPerSec] at zero
  simp only [Duration.isZero, Bool.and_eq_true, beq_iff_eq]
  omega

namespace Instant

variable {t : Instant} {d : Duration}

theorem add?_of_le (fits : (t + d.toNanos) / nanosPerSec ≤ limitSecs) :
    t.add? d = some (t + d.toNanos) := by
  unfold add?
  rw [if_neg (Nat.not_lt.mpr fits)]

theorem nextTick_of_le {due : Instant} (now : Instant) {period : Duration}
    (short : period ≤ Duration.farFuture)
    (fits : (due + period.toNanos) / nanosPerSec ≤ limitSecs) :
    due.nextTick now period = due + period.toNanos := by
  unfold nextTick
  rw [if_neg (show ¬Duration.farFuture < period from Nat.not_lt.mpr short), add?_of_le fits]
  rfl

theorem add_succ_mul (t : Instant) (n k : Nat) : t + n + k * n = t + (k + 1) * n := by
  rw [Nat.succ_mul, Nat.add_assoc, Nat.add_comm n]

theorem fits_of_succ_mul {t n k : Nat} (fits : (t + (k + 1) * n) / nanosPerSec ≤ limitSecs) :
    (t + n) / nanosPerSec ≤ limitSecs := by
  refine Nat.le_trans (Nat.div_le_div_right ?_) fits
  rw [← add_succ_mul]
  exact Nat.le_add_right _ _

/-- The instants `first`, `first + period`, `first + 2·period`, … of `n` ticks of a timer. -/
def schedule (first : Instant) (period : Duration) : Nat → List Instant
  | 0 => []
  | n + 1 => first :: schedule (first + period.toNanos) period n

end Instant

namespace CallbackSite

variable {σ ε ι : Type} (site : CallbackSite σ ε ι)

open Async

/-- The first tick of a timer started now: one period on. A zero period, or a first tick past the
end of the clock, fails the timer. -/
def timerStart (period : Duration) : Async σ ε ι Instant := do
  match (← Async.now).after period with
  | .ok first => if period.isZero then Async.panic "period must be non-zero" else pure first
  | .error _ => Async.panic ClockOverflow.message

/-- The work of a timer round once its tick has come: the tick is handled, and the round after is
due at `Instant.nextTick` if the callback is still there, repeats and is pending. -/
def roundWork (id : Nat) (due : Instant) (period : Duration) : Async σ ε ι (Option Instant) := do
  let next := due.nextTick (← Async.now) period
  let some _ ← site.get? id | pure none
  site.onTimeout id
  let some cb ← site.get? id | pure none
  if !cb.config.repeats || cb.fired then return none
  pure (some next)

theorem firstTick_eq (id : Nat) (period : Duration) :
    site.firstTick id period =
      (timerStart period >>= fun first => Async.call (site.tick id first period)) := by
  funext k
  show Program.read _ = Program.read _
  congr 1
  funext now s
  rcases after : now.after period with _ | first
  · simp only [after]
    rfl
  · by_cases zero : period.isZero = true
    · simp only [after, zero, if_true]
      rfl
    · simp only [after, zero]
      rfl

/-- The rounds of the timer of the callback of `id`, ticking every `period`, from the round due at
`due`: woken at the instants `wakes` in turn, each no earlier than its round is due, they take the
world from `s` to `s'`, and the last round ends the timer. -/
inductive Ticks (id : Nat) (period : Duration) : Instant → List Instant → σ → σ → Prop
  | last {due now : Instant} {s s' : σ} : due ≤ now →
      Runs (site.roundWork id due period) now s none s' [] → Ticks id period due [now] s s'
  | next {due now later : Instant} {wakes : List Instant} {s s₁ s' : σ} : due ≤ now →
      Runs (site.roundWork id due period) now s (some later) s₁ [] →
      Ticks id period later wakes s₁ s' → Ticks id period due (now :: wakes) s s'

theorem timerStart_fails {period : Duration} (zero : period.isZero = true) (now : Instant) (s : σ) :
    ∃ why, Fails (timerStart period : Async σ ε ι Instant) now s s [] why := by
  unfold timerStart
  rcases after : now.after period with _ | first
  · exact ⟨_, (runs_now now s).bind_fails (by rw [after]; exact fails_panic _ now s)⟩
  · exact ⟨_, (runs_now now s).bind_fails (by rw [after]; dsimp only; rw [if_pos zero]; exact fails_panic _ now s)⟩

theorem timerStart_runs {period : Duration} (nonzero : period.isZero = false) {now : Instant}
    (fits : (now + period.toNanos) / nanosPerSec ≤ Instant.limitSecs) (s : σ) :
    Runs (timerStart period : Async σ ε ι Instant) now s (now + period.toNanos) s [] := by
  unfold timerStart
  have after : now.after period = .ok (now + period.toNanos) := by
    simp only [Instant.after, Instant.add?_of_le fits]
  refine (runs_now now s).bind ?_
  rw [after]
  dsimp only
  rw [if_neg (by rw [nonzero]; exact Bool.false_ne_true)]
  exact runs_pure _ now s

variable {id : Nat} {period : Duration} {due : Instant} {wakes : List Instant} {s s' : σ}

theorem ticks_iff_of_ends {final : Instant → σ}
    (ends : ∀ now, Runs (site.roundWork id due period) now s none (final now) []) :
    site.Ticks id period due wakes s s' ↔ ∃ now, wakes = [now] ∧ due ≤ now ∧ s' = final now := by
  constructor
  · rintro (⟨late, runs⟩ | ⟨late, runs, _⟩)
    · exact ⟨_, rfl, late, Runs.world_eq runs (ends _)⟩
    · exact absurd ((Runs.runsAt runs 0).answer_eq ((ends _).runsAt 0)) (by simp)
  · rintro ⟨now, rfl, late, rfl⟩
    exact .last late (ends now)

theorem ticks_iff_of_goes {next : Instant} {after : Instant → σ}
    (goes : ∀ now, Runs (site.roundWork id due period) now s (some next) (after now) []) :
    site.Ticks id period due wakes s s' ↔
      ∃ now rest, wakes = now :: rest ∧ due ≤ now ∧ site.Ticks id period next rest (after now) s' := by
  constructor
  · rintro (⟨late, runs⟩ | ⟨late, runs, rounds⟩)
    · exact absurd ((Runs.runsAt runs 0).answer_eq ((goes _).runsAt 0)) (by simp)
    · -- the round handed on to the one due at `next`, in the world it leaves
      obtain rfl := Option.some.inj ((Runs.runsAt runs 0).answer_eq ((goes _).runsAt 0))
      obtain rfl := Runs.world_eq runs (goes _)
      exact ⟨_, _, rfl, late, rounds⟩
  · rintro ⟨now, rest, rfl, late, rounds⟩
    exact .next late (goes now) rounds

end CallbackSite

/-- The callback after its request was sent again `k` more times. -/
def Callback.resentBy (cb : Callback) (k : Nat) : Callback :=
  { cb with message := { cb.message with resendCount := cb.message.resendCount + k } }

theorem Callback.resentBy_zero (cb : Callback) : cb.resentBy 0 = cb := rfl

theorem Callback.resentBy_resentBy (cb : Callback) (a b : Nat) :
    (cb.resentBy a).resentBy b = cb.resentBy (a + b) := by
  simp [Callback.resentBy, Nat.add_assoc]

/-- How many times the timer of `cb` sends its request again before it times out, on a desk that
allows the resends of its policy: those left when it repeats, else none. -/
def Callback.timerResends (cb : Callback) : Nat :=
  if cb.config.repeats then cb.config.maxResendCount - cb.message.resendCount else 0

theorem CallbackConfig.timerPeriod_isZero_iff (c : CallbackConfig) :
    c.timerPeriod.isZero = true ↔
      c.timeout.toNanos < (if c.repeats then c.maxResendCount + 1 else 1) := by
  rw [Duration.isZero_iff_toNanos]
  unfold CallbackConfig.timerPeriod
  cases c.repeats
  · simp only [Bool.false_eq_true, if_false]
    omega
  · simp [Duration.divBy, Duration.toNanos_ofNanos, Nat.div_eq_zero_iff]

theorem Callback.timerResends_rounds_le (cb : Callback) :
    (cb.timerResends + 1) * cb.config.timerPeriod.toNanos ≤ cb.config.timeout.toNanos := by
  unfold Callback.timerResends CallbackConfig.timerPeriod
  cases cb.config.repeats
  · simp
  · simp only [if_true, Duration.divBy, Duration.toNanos_ofNanos]
    calc (cb.config.maxResendCount - cb.message.resendCount + 1) *
          (cb.config.timeout.toNanos / (cb.config.maxResendCount + 1))
        ≤ (cb.config.maxResendCount + 1) *
          (cb.config.timeout.toNanos / (cb.config.maxResendCount + 1)) :=
          Nat.mul_le_mul_right _ (by omega)
      _ ≤ cb.config.timeout.toNanos := Nat.mul_div_le _ _

namespace Scenario

open Async

variable {d : Desk} {cb : Callback} {due now : Instant} {period : Duration}

theorem find_deskSite (held : d.callback = some cb) : deskSite.find cb.id d = some cb := by
  simp [deskSite, held]

theorem runs_resend (held : d.callback = some cb) (now : Instant) :
    Runs (deskSite.resend cb.id) now d (decide (cb.message.resendCount < d.budget))
      (if cb.message.resendCount < d.budget then
        { d with callback := some (cb.resentBy 1), resends := d.resends ++ [now / nanosPerMilli] }
      else d) [] := by
  intro k next
  by_cases allowed : cb.message.resendCount < d.budget
  · simp only [deskSite, Async.update, Program.settle_read, held, allowed, if_true, decide_true]
    rfl
  · simp only [deskSite, Async.update, Program.settle_read, held, allowed, if_false, decide_false]
    rfl

/-- The desk after the callback `cb` it holds timed out at `now`: the callback fired, it left its
table, and its timeout response is in the caller's channel unless a reply is there already. -/
def Desk.timedOut (d : Desk) (cb : Callback) (now : Instant) : Desk :=
  { d with
    callback := some cb.completed
    unregistered := d.unregistered + 1
    inbox := some (d.inbox.getD (cb.timeoutReply now)) }

/-- The desk after the request of the callback `cb` it holds was sent again at each of `tries`. -/
def Desk.resentAt (d : Desk) (cb : Callback) (tries : List Instant) : Desk :=
  { d with
    callback := some (cb.resentBy tries.length)
    resends := d.resends ++ tries.map (· / nanosPerMilli) }

theorem Desk.resentAt_nil (held : d.callback = some cb) : d.resentAt cb [] = d := by
  cases d
  simp_all [Desk.resentAt, Callback.resentBy_zero]

theorem Desk.resentAt_cons (d : Desk) (cb : Callback) (now : Instant) (tries : List Instant) :
    (d.resentAt cb [now]).resentAt (cb.resentBy 1) tries = d.resentAt cb (now :: tries) := by
  simp [Desk.resentAt, Callback.resentBy_resentBy, Nat.add_comm]

theorem onTimeout_resends (held : d.callback = some cb) (pending : cb.fired = false)
    (resending : cb.config.resendOnTimeout = true) (allowed : cb.message.resendCount < d.budget) :
    Runs (deskSite.onTimeout cb.id) now d ()
      { d with callback := some (cb.resentBy 1), resends := d.resends ++ [now / nanosPerMilli] } [] := by
  have resent := runs_resend held now
  rw [if_pos allowed, decide_eq_true allowed] at resent
  unfold CallbackSite.onTimeout
  refine (deskSite.runs_get? cb.id now d).bind ?_
  rw [find_deskSite held]
  dsimp only
  rw [if_neg (by simp [pending]), if_pos resending]
  exact resent.bind (runs_pure () now _)

theorem onTimeout_fires (held : d.callback = some cb) (pending : cb.fired = false)
    (sender : cb.hasSender = true)
    (refused : cb.config.resendOnTimeout = true → d.budget ≤ cb.message.resendCount) :
    Runs (deskSite.onTimeout cb.id) now d () (d.timedOut cb now) [] := by
  unfold CallbackSite.onTimeout
  refine (deskSite.runs_get? cb.id now d).bind ?_
  rw [find_deskSite held]
  dsimp only
  rw [if_neg (by simp [pending])]
  -- when resending on timeout is on, the request is offered to the desk first, which refuses it
  cases resending : cb.config.resendOnTimeout
  on_goal 1 => rw [if_neg Bool.false_ne_true]
  on_goal 2 =>
    have refusal := runs_resend held now
    have full : ¬cb.message.resendCount < d.budget := Nat.not_lt.mpr (refused resending)
    rw [if_neg full, decide_eq_false full] at refusal
    rw [if_pos rfl]
    refine refusal.bind ?_
    rw [if_neg Bool.false_ne_true]
  -- then the callback completes, leaves its table and hands its reply over
  all_goals
    refine (deskSite.runs_get? cb.id now d).bind ?_
    rw [find_deskSite held]
    refine (runs_now now d).bind ((deskSite.runs_complete cb now d).bind ?_)
    rw [sender]
    refine (runs_modify _ now _).bind (runs_modify_of ?_)
    -- the reply goes into the channel only when it is empty
    cases box : d.inbox <;> simp [Desk.timedOut, deskSite, held, box]

theorem roundWork_resends (held : d.callback = some cb) (pending : cb.fired = false)
    (resending : cb.config.resendOnTimeout = true) (allowed : cb.message.resendCount < d.budget) :
    Runs (deskSite.roundWork cb.id due period) now d
      (if cb.config.repeats then some (due.nextTick now period) else none)
      { d with callback := some (cb.resentBy 1), resends := d.resends ++ [now / nanosPerMilli] } [] := by
  unfold CallbackSite.roundWork
  refine (runs_now now d).bind ((deskSite.runs_get? cb.id now d).bind ?_)
  rw [find_deskSite held]
  refine (onTimeout_resends held pending resending allowed).bind
    ((deskSite.runs_get? cb.id now _).bind ?_)
  have found : deskSite.find cb.id
      { d with callback := some (cb.resentBy 1), resends := d.resends ++ [now / nanosPerMilli] } =
      some (cb.resentBy 1) :=
    find_deskSite (show Desk.callback { d with callback := some (cb.resentBy 1) } = _ from rfl)
  rw [found]
  cases repeats : cb.config.repeats
  · simp only [Callback.resentBy, repeats, Bool.not_false, Bool.true_or, if_true]
    exact runs_pure none now _
  · simp only [Callback.resentBy, repeats, pending, Bool.not_true, Bool.or_false]
    exact runs_pure _ now _

theorem roundWork_resends_on_schedule (held : d.callback = some cb) (pending : cb.fired = false)
    (repeating : cb.config.repeats = true) (allowed : cb.message.resendCount < d.budget)
    (short : period ≤ Duration.farFuture)
    (fits : (due + period.toNanos) / nanosPerSec ≤ Instant.limitSecs) (now : Instant) :
    Runs (deskSite.roundWork cb.id due period) now d (some (due + period.toNanos))
      (d.resentAt cb [now]) [] := by
  have resending : cb.config.resendOnTimeout = true := by
    simp only [CallbackConfig.repeats, Bool.and_eq_true] at repeating
    exact repeating.1
  have round : Runs (deskSite.roundWork cb.id due period) now d _ _ [] :=
    roundWork_resends held pending resending allowed
  rw [repeating, if_pos rfl, Instant.nextTick_of_le now short fits] at round
  exact round

theorem roundWork_fires (held : d.callback = some cb) (pending : cb.fired = false)
    (sender : cb.hasSender = true)
    (refused : cb.config.resendOnTimeout = true → d.budget ≤ cb.message.resendCount) :
    Runs (deskSite.roundWork cb.id due period) now d none (d.timedOut cb now) [] := by
  unfold CallbackSite.roundWork
  refine (runs_now now d).bind ((deskSite.runs_get? cb.id now d).bind ?_)
  rw [find_deskSite held]
  refine (onTimeout_fires held pending sender refused).bind
    ((deskSite.runs_get? cb.id now _).bind ?_)
  have found : deskSite.find cb.id (d.timedOut cb now) = some cb.completed :=
    find_deskSite (show (d.timedOut cb now).callback = some cb.completed from rfl)
  rw [found]
  simp only [Callback.completed_fired, Bool.or_true, if_true]
  exact runs_pure none now _

theorem Desk.ticks_iff_of_refused {wakes : List Instant} {d' : Desk} (held : d.callback = some cb)
    (pending : cb.fired = false) (sender : cb.hasSender = true)
    (refused : cb.config.resendOnTimeout = true → d.budget ≤ cb.message.resendCount) :
    deskSite.Ticks cb.id period due wakes d d' ↔
      ∃ tries fire, wakes = tries ++ [fire] ∧ List.Forall₂ (· ≤ ·) (due.schedule period 1) wakes ∧
        d' = (d.resentAt cb tries).timedOut cb fire := by
  rw [CallbackSite.ticks_iff_of_ends deskSite
    (fun now => roundWork_fires held pending sender refused)]
  constructor
  · rintro ⟨fire, rfl, late, rfl⟩
    exact ⟨[], fire, rfl, .cons late .nil, by rw [Desk.resentAt_nil held]⟩
  · rintro ⟨_ | ⟨now, tries⟩, fire, rfl, schedule, rfl⟩
    · obtain ⟨late, -⟩ := List.forall₂_cons.mp schedule
      exact ⟨fire, rfl, late, by rw [Desk.resentAt_nil held]⟩
    · -- one round is due, so there is one wake
      have lengths := schedule.length_eq
      simp [Instant.schedule] at lengths

/-- The rounds of a timer ticking every `period` from `due`, for a pending callback that repeats
with `k` resends left on the desk: the first `k` rounds send the request again, each handing on to
the round due one period after its own, and the last times the callback out. They are woken no
earlier than the schedule `due + j·period`, and the desk ends with the `k` resends noted and the
timeout response handed over at the last wake. -/
theorem Desk.ticks_iff {k : Nat} {wakes : List Instant} {d' : Desk} (held : d.callback = some cb)
    (pending : cb.fired = false) (sender : cb.hasSender = true)
    (repeating : cb.config.repeats = true) (short : period ≤ Duration.farFuture)
    (left : d.budget - cb.message.resendCount = k)
    (fits : (due + k * period.toNanos) / nanosPerSec ≤ Instant.limitSecs) :
    deskSite.Ticks cb.id period due wakes d d' ↔
      ∃ tries fire, wakes = tries ++ [fire] ∧
        List.Forall₂ (· ≤ ·) (due.schedule period (k + 1)) wakes ∧
        d' = (d.resentAt cb tries).timedOut (cb.resentBy k) fire := by
  -- induction on the resends left, the round due, the desk and the callback moving with it
  induction k generalizing d cb due wakes d' with
  | zero => exact Desk.ticks_iff_of_refused held pending sender (fun _ => by omega)
  | succ k ih =>
    have allowed : cb.message.resendCount < d.budget := by omega
    have rest : ∀ now wakes d', deskSite.Ticks cb.id period (due + period.toNanos) wakes
        (d.resentAt cb [now]) d' ↔ ∃ tries fire, wakes = tries ++ [fire] ∧
          List.Forall₂ (· ≤ ·) ((due + period.toNanos).schedule period (k + 1)) wakes ∧
          d' = (d.resentAt cb (now :: tries)).timedOut (cb.resentBy (k + 1)) fire := by
      intro now wakes d'
      have left' : (d.resentAt cb [now]).budget - (cb.resentBy 1).message.resendCount = k := by
        simp only [Desk.resentAt, Callback.resentBy]
        omega
      have held' : (d.resentAt cb [now]).callback = some (cb.resentBy 1) := rfl
      refine (ih held' pending sender repeating left' (by rw [Instant.add_succ_mul]; exact fits)).trans ?_
      simp only [Desk.resentAt_cons, Callback.resentBy_resentBy, Nat.add_comm 1 k]
    -- the round sends the request again and hands on to the round one period later
    rw [CallbackSite.ticks_iff_of_goes deskSite (roundWork_resends_on_schedule held pending
      repeating allowed short (Instant.fits_of_succ_mul fits))]
    constructor
    · rintro ⟨now, wakes, rfl, late, rounds⟩
      obtain ⟨tries, fire, rfl, schedule, rfl⟩ := (rest now wakes d').mp rounds
      exact ⟨now :: tries, fire, rfl, .cons late schedule, rfl⟩
    · rintro ⟨_ | ⟨now, tries⟩, fire, rfl, schedule, rfl⟩
      · -- two or more rounds are due, so there is more than one wake
        have lengths := schedule.length_eq
        simp [Instant.schedule] at lengths
      · obtain ⟨late, schedule⟩ := List.forall₂_cons.mp schedule
        exact ⟨now, tries ++ [fire], rfl, late, (rest now _ _).mpr ⟨tries, fire, rfl, schedule, rfl⟩⟩

/-- The timer of a pending callback whose caller waits, on a desk that sends the request again while
it was sent fewer than `maxResendCount` times, its task first running at `start`.

Its period is zero exactly when the timeout is shorter than a nanosecond for each attempt, and then
the timer task fails before any round: no timeout is ever handed over. Otherwise, while its rounds
are on the clock (and the period is at most thirty years when it repeats), the first round is due
one period on, and the rounds are exactly these: `timerResends` of them send the request again and
the last times the callback out, each woken no earlier than `start + j·period`. The last round is
due no later than `start + timeout`. -/
theorem Desk.timer_times_out_within_timeout (held : d.callback = some cb)
    (pending : cb.fired = false) (sender : cb.hasSender = true)
    (budget : d.budget = cb.config.maxResendCount) (start : Instant) :
    (cb.config.timerPeriod.isZero = true ↔
        cb.config.timeout.toNanos < (if cb.config.repeats then cb.config.maxResendCount + 1 else 1)) ∧
    (cb.config.timerPeriod.isZero = true →
        ∃ why, Fails (deskSite.firstTick cb.id cb.config.timerPeriod) start d d [] why) ∧
    (cb.timerResends + 1) * cb.config.timerPeriod.toNanos ≤ cb.config.timeout.toNanos ∧
    (cb.config.timerPeriod.isZero = false →
      (cb.config.repeats = true → cb.config.timerPeriod ≤ Duration.farFuture) →
      (start + (cb.timerResends + 1) * cb.config.timerPeriod.toNanos) / nanosPerSec ≤
        Instant.limitSecs →
      Runs (CallbackSite.timerStart cb.config.timerPeriod : Async Desk Unit DeskProc Instant) start d
          (start + cb.config.timerPeriod.toNanos) d [] ∧
        ∀ wakes d', deskSite.Ticks cb.id cb.config.timerPeriod
            (start + cb.config.timerPeriod.toNanos) wakes d d' ↔
          ∃ tries fire, wakes = tries ++ [fire] ∧
            List.Forall₂ (· ≤ ·) ((start + cb.config.timerPeriod.toNanos).schedule
              cb.config.timerPeriod (cb.timerResends + 1)) wakes ∧
            d' = (d.resentAt cb tries).timedOut (cb.resentBy cb.timerResends) fire) := by
  refine ⟨cb.config.timerPeriod_isZero_iff, fun zero => ?_, cb.timerResends_rounds_le,
    fun nonzero short fits => ⟨CallbackSite.timerStart_runs nonzero (Instant.fits_of_succ_mul fits) d,
      fun wakes d' => ?_⟩⟩
  · -- the timer task fails where it computes its first tick
    obtain ⟨why, fails⟩ : ∃ why, Fails (CallbackSite.timerStart cb.config.timerPeriod :
        Async Desk Unit DeskProc Instant) start d d [] why :=
      CallbackSite.timerStart_fails zero start d
    rw [CallbackSite.firstTick_eq]
    exact ⟨why, fails.bind⟩
  cases repeating : cb.config.repeats
  · -- a timer that does not repeat has one round, which times the callback out
    have refused : cb.config.resendOnTimeout = true → d.budget ≤ cb.message.resendCount := by
      intro resending
      simp only [CallbackConfig.repeats, resending, Bool.true_and, decide_eq_false_iff_not] at repeating
      omega
    have none_left : cb.timerResends = 0 := by simp [Callback.timerResends, repeating]
    rw [none_left]
    exact Desk.ticks_iff_of_refused held pending sender refused
  · have left : d.budget - cb.message.resendCount = cb.timerResends := by
      simp [Callback.timerResends, repeating, budget]
    rw [← Instant.add_succ_mul] at fits
    exact Desk.ticks_iff held pending sender repeating (short repeating) left fits

/-- A request that may be sent again twice, timing out after 300 ms. -/
def twiceResent : Callback :=
  Callback.make (Message.request 7 ⟨1, "target", .grain⟩ 1 1 []) ⟨.ofMillis 300, true, 2⟩ 0

def twiceResentDesk : Desk := { callback := some twiceResent, budget := 2 }

/-- Woken on its schedule, every 100 ms, the timer sends the request again at 100 and 200 ms and
times the callback out at 300 ms, the timeout. -/
theorem twice_resent_times_out_at_timeout :
    deskSite.Ticks twiceResent.id twiceResent.config.timerPeriod
      (0 + twiceResent.config.timerPeriod.toNanos) [100000000, 200000000, 300000000] twiceResentDesk
      ((twiceResentDesk.resentAt twiceResent [100000000, 200000000]).timedOut
        (twiceResent.resentBy 2) 300000000) :=
  (((Desk.timer_times_out_within_timeout rfl rfl rfl rfl 0).2.2.2 (by decide) (fun _ => by decide)
    (by decide)).2 _ _).mpr ⟨[100000000, 200000000], 300000000, rfl, by decide, rfl⟩

end Scenario

end ActorSilo
