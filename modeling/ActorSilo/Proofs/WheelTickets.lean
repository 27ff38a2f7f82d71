import ActorSilo.Activation.Collector

/-! # Tickets, due buckets and the clock

Bucket `k` is due `k` quanta after the epoch (`Collector.dueAt`); at `now` the buckets up to
`Collector.lastDue now` are due. A record scheduled `timeout` from `now` gets the first bucket
due at or after that moment (`Collector.firstBucketAfter`), capped at the largest ticket. The
two ends meet exactly: that bucket is due in `[now + timeout, now + timeout + quantum)`
(`Collector.dueAt_firstBucketAfter`).

**Main results:** `Collector.ticketFor_ok`, `Collector.lastDue_lt_bucketAfter`,
`Collector.dueAt_firstBucketAfter`.
-/

namespace ActorSilo

namespace Collector

/-- The last bucket due at `now`: the whole quanta from the epoch to `now`. -/
def lastDue (c : Collector) (now : Instant) : Nat := (now - c.epoch) / c.quantum.toNanos

/-- The moment bucket `k` is due: `k` quanta after the epoch. -/
def dueAt (c : Collector) (k : Nat) : Instant := c.epoch + c.quantum.toNanos * k

/-- The first bucket due at or after `timeout` from `now`. -/
def firstBucketAfter (c : Collector) (timeout : Duration) (now : Instant) : Nat :=
  (now + timeout.toNanos - c.epoch + c.quantum.toNanos - 1) / c.quantum.toNanos

/-- The bucket a record scheduled `timeout` from `now` goes to: the first one due at or after
that moment, or the largest ticket when that one is further. -/
def bucketAfter (c : Collector) (timeout : Duration) (now : Instant) : Nat :=
  min (c.firstBucketAfter timeout now) maxTicket

variable {c : Collector} {next t k : Nat} {timeout : Duration} {now : Instant}

/-! ## What `ticketFor` answers -/

theorem ticketFor_short (short : timeout < c.quantum) :
    c.ticketFor next timeout now = .ok (.error (.timeoutBelowQuantum timeout c.quantum)) := by
  unfold ticketFor
  rw [if_pos short]
  rfl

theorem ticketFor_beyond (long : ¬timeout < c.quantum) (beyond : now.add? timeout = none) :
    c.ticketFor next timeout now = .error {} := by
  unfold ticketFor
  rw [if_neg long]
  simp only [Instant.after, beyond]
  rfl

theorem ticketFor_fits {due : Instant} (long : ¬timeout < c.quantum)
    (fits : now.add? timeout = some due) :
    c.ticketFor next timeout now =
      if c.bucketAfter timeout now < next then .ok (.error .ticketExpired)
      else .ok (.ok (c.bucketAfter timeout now)) := by
  have moment : due = now + timeout.toNanos := by
    simp only [Instant.add?] at fits
    split at fits
    · cases fits
    · cases fits
      rfl
  subst moment
  unfold ticketFor
  rw [if_neg long]
  simp only [Instant.after, fits, bucketAfter, firstBucketAfter]
  rfl

theorem ticketFor_error {e : ClockOverflow} (failed : c.ticketFor next timeout now = .error e) :
    now.add? timeout = none := by
  by_cases short : timeout < c.quantum
  · rw [ticketFor_short short] at failed
    cases failed
  rcases fits : now.add? timeout with _ | due
  · rfl
  rw [ticketFor_fits short fits] at failed
  split at failed <;> cases failed

/-- A ticket is given only for a timeout of at least a quantum, and it names the bucket that
timeout after `now`, no earlier than `next`. -/
theorem ticketFor_ok (given : c.ticketFor next timeout now = .ok (.ok t)) :
    c.quantum ≤ timeout ∧ t = c.bucketAfter timeout now ∧ next ≤ t := by
  by_cases short : timeout < c.quantum
  · rw [ticketFor_short short] at given
    cases given
  rcases fits : now.add? timeout with _ | due
  · rw [ticketFor_beyond short fits] at given
    cases given
  rw [ticketFor_fits short fits] at given
  split at given
  · cases given
  · rename_i later
    cases given
    exact ⟨Nat.le_of_not_lt short, rfl, Nat.le_of_not_lt later⟩

/-! ## Due buckets -/

theorem lastDue_mono {now' : Instant} (later : now ≤ now') : c.lastDue now ≤ c.lastDue now' :=
  Nat.div_le_div_right (Nat.sub_le_sub_right later _)

/-- Bucket `k` is due at `now` exactly when its moment has come. -/
theorem le_lastDue_iff (positive : 0 < c.quantum.toNanos) (early : c.epoch ≤ now) :
    k ≤ c.lastDue now ↔ c.dueAt k ≤ now := by
  unfold lastDue dueAt
  rw [Nat.le_div_iff_mul_le positive, Nat.mul_comm]
  unfold Instant at *
  omega

/-- The bucket after `timeout` is due at a moment in `[now + timeout, now + timeout + quantum)`. -/
theorem dueAt_firstBucketAfter (positive : 0 < c.quantum.toNanos) (early : c.epoch ≤ now) :
    now + timeout.toNanos ≤ c.dueAt (c.firstBucketAfter timeout now) ∧
      c.dueAt (c.firstBucketAfter timeout now) < now + timeout.toNanos + c.quantum.toNanos := by
  unfold dueAt firstBucketAfter
  -- `q * ⌈y / q⌉` is the multiple of `q` in `[y, y + q)`
  generalize span : now + timeout.toNanos - c.epoch = y
  have below := Nat.div_mul_le_self (y + c.quantum.toNanos - 1) c.quantum.toNanos
  have above := Nat.lt_div_mul_add (a := y + c.quantum.toNanos - 1) positive
  rw [Nat.mul_comm] at below above
  unfold Instant at *
  omega

/-- A bucket at least a quantum after `now` comes after the last bucket due, as long as a
ticket can name one. -/
theorem lastDue_lt_bucketAfter (positive : 0 < c.quantum.toNanos) (long : c.quantum ≤ timeout)
    (early : c.epoch ≤ now) (room : c.lastDue now < maxTicket) :
    c.lastDue now < c.bucketAfter timeout now := by
  have long : c.quantum.toNanos ≤ timeout.toNanos := long
  refine Nat.lt_min.mpr ⟨?_, room⟩
  have moment : now + timeout.toNanos ≤ c.dueAt (c.firstBucketAfter timeout now) :=
    (dueAt_firstBucketAfter positive early).1
  -- the moment of the last bucket due is no later than `now`, a quantum before that bucket's
  have last : c.dueAt (c.lastDue now) ≤ now := (le_lastDue_iff positive early).mp (Nat.le_refl _)
  unfold dueAt at moment last
  have : c.quantum.toNanos * c.lastDue now < c.quantum.toNanos * c.firstBucketAfter timeout now := by
    unfold Instant at *
    omega
  exact Nat.lt_of_mul_lt_mul_left this

end Collector

end ActorSilo
