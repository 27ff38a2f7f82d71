import ActorSilo.Proofs.WheelExits

/-! # When the periodic scan reaches a scheduled record

A record scheduled `timeout` from `t` holds the ticket of the bucket after that moment, due in
`[t + timeout, t + timeout + quantum)` unless capped. Along any run of the wheel that spares it
(`WheelOp.Spares`: no operation about its id, no forced scan), every periodic scan before that
moment leaves it as scheduled, and the first one at or after it finds the record exactly when it
is a stale candidate, and otherwise schedules it again or, below a quantum, drops it. The step
lemma is `Collector.Consistent.spares`, carried along a run by `Collector.Consistent.spares_run`.

**Main result:** `scan_collects_on_time`.
-/

namespace ActorSilo

namespace WheelOp

/-- The operation leaves record `id` alone: it is about another record, or it is the periodic
scan. -/
def Spares (id : Nat) : WheelOp → Prop
  | .schedule x _ | .cancel x | .reschedule x _ => x ≠ id
  | .scanStale => True
  | .scanAll _ => False
  | .edit b => b.id ≠ id

end WheelOp

theorem WheelRun.later {st st' : Collector × List Activation} {t t' : Instant} {ops : List WheelOp}
    (run : WheelRun st t ops st' t') : t ≤ t' := by
  induction run with
  | nil => exact Nat.le_refl _
  | step before _ _ ih => exact Nat.le_trans before ih

namespace Collector

variable {c c' : Collector} {acts acts' : List Activation} {a b : Activation} {k : Nat}
  {now : Instant} {op : WheelOp}

theorem Outcome.spared (moved : Outcome c acts now a op b) (spared : op.Spares a.id)
    (unreached : op = .scanStale → ¬c.Reaches now a) : b = a := by
  cases moved with
  | stays => rfl
  | schedule => exact absurd rfl spared
  | cancel => exact absurd rfl spared
  | reschedule => exact absurd rfl spared
  | scanStale _ reaches => exact absurd reaches (unreached rfl)
  | scanAll => exact spared.elim
  | edit named => exact absurd named spared

namespace Consistent

theorem keeps (consistent : Consistent c acts now) (applied : op.apply c acts now = .ok (c', acts')) :
    c'.quantum = c.quantum ∧ c'.epoch = c.epoch := by
  cases WheelOp.Applied.of_apply applied with
  | same => exact ⟨rfl, rfl⟩
  | schedule _ placed =>
    have frame := (retickets_schedule placed).frame
    exact ⟨frame.quantum, frame.epoch⟩
  | @cancel _ a' _ =>
    have frame := (retickets_cancel c a').frame
    exact ⟨frame.quantum, frame.epoch⟩
  | reschedule found moved =>
    have frame := (retickets_reschedule consistent.holds.sorted
      (consistent.holds.backs (find?_mem found).1) moved).frame
    exact ⟨frame.quantum, frame.epoch⟩
  | scanStale scanned =>
    obtain ⟨-, quantum, epoch, -⟩ := consistent.holds.scanStale consistent.positive consistent.early scanned
    exact ⟨quantum, epoch⟩
  | scanAll =>
    obtain ⟨-, frame⟩ := consistent.holds.scanAll _ now
    exact ⟨frame.quantum, frame.epoch⟩
  | edit => exact ⟨rfl, rfl⟩

/-- One step: an operation that spares record `b`, waiting for bucket `k`, leaves it waiting,
unless it is a periodic scan at a moment bucket `k` is due. -/
theorem spares (consistent : Consistent c acts now) (found : find? acts b.id = some b)
    (ticket : b.ticket = some k) (spared : op.Spares b.id)
    (ahead : op = .scanStale → c.lastDue now < k) (applied : op.apply c acts now = .ok (c', acts')) :
    find? acts' b.id = some b := by
  obtain ⟨b', read, moved⟩ := consistent.outcome (find?_mem found).1 applied
  have unreached : op = .scanStale → ¬c.Reaches now b := by
    rintro rfl ⟨k', ticket', due⟩
    rw [ticket] at ticket'
    cases ticket'
    exact absurd due (Nat.not_le.mpr (ahead rfl))
  rw [read, moved.spared spared unreached]

/-- A run that spares record `b`, waiting for bucket `k`, leaves it waiting and the wheel
consistent, with its quantum and epoch, when each periodic scan of the run comes before bucket `k`
is due at the run's last moment. -/
theorem spares_run {st st' : Collector × List Activation} {t t' : Instant} {ops : List WheelOp}
    (consistent : Consistent st.1 st.2 t) (found : find? st.2 b.id = some b)
    (ticket : b.ticket = some k) (run : WheelRun st t ops st' t')
    (spared : ∀ op ∈ ops, op.Spares b.id ∧ (op = .scanStale → st.1.lastDue t' < k)) :
    Consistent st'.1 st'.2 t' ∧ find? st'.2 b.id = some b ∧
      st'.1.quantum = st.1.quantum ∧ st'.1.epoch = st.1.epoch := by
  -- induction on the run; each step keeps the wheel's quantum and epoch, so its due buckets too
  induction run with
  | nil => exact ⟨consistent, found, rfl, rfl⟩
  | @step st st₁ st' t s t' op ops later applied rest ih =>
    have current := consistent.later later
    obtain ⟨quantum, epoch⟩ := current.keeps applied
    obtain ⟨spares₁, ahead₁⟩ := spared op List.mem_cons_self
    have ahead : op = .scanStale → st.1.lastDue s < k := fun scan =>
      Nat.lt_of_le_of_lt (lastDue_mono rest.later) (ahead₁ scan)
    have spared' : ∀ op' ∈ ops, op'.Spares b.id ∧ (op' = .scanStale → st₁.1.lastDue t' < k) := by
      intro op' member
      obtain ⟨spares', ahead'⟩ := spared op' (List.mem_cons_of_mem _ member)
      rw [lastDue_congr quantum epoch]
      exact ⟨spares', ahead'⟩
    obtain ⟨consistent', found', quantum', epoch'⟩ :=
      ih (current.apply applied) (current.spares found ticket spares₁ ahead applied) spared'
    exact ⟨consistent', found', quantum'.trans quantum, epoch'.trans epoch⟩

end Consistent

theorem dueAt_mono {k' : Nat} (le : k ≤ k') : c.dueAt k ≤ c.dueAt k' :=
  Nat.add_le_add_left (Nat.mul_le_mul_left _ le) _

/-- What becomes of record `a`, scheduled `timeout` from `t` on the wheel `c` among the records
`acts`, which makes it record `b` on the wheel `c₁`, along the runs that spare it. -/
structure OnTime (c c₁ : Collector) (acts : List Activation) (t : Instant) (timeout : Duration)
    (a b : Activation) : Prop where
  /-- The record holds the ticket of the bucket after the timeout, due within a quantum after
  it, or the largest ticket. -/
  placed : b = { a with cancelled := false, ticket := some (c.bucketAfter timeout t) } ∧
    (c.bucketAfter timeout t = maxTicket ∨ t + timeout.toNanos ≤ c.dueAt (c.bucketAfter timeout t)) ∧
    c.dueAt (c.bucketAfter timeout t) < t + timeout.toNanos + c.quantum.toNanos
  /-- Until its bucket is due, the record waits as scheduled, and no periodic scan finds or moves
  it. -/
  waits : ∀ ops st t', WheelRun (c₁, replace acts b) t ops st t' → (∀ op ∈ ops, op.Spares a.id) →
    t' < c.dueAt (c.bucketAfter timeout t) →
    find? st.2 a.id = some b ∧ ∀ s, t' ≤ s → s < c.dueAt (c.bucketAfter timeout t) →
      ∀ c' acts' stale, st.1.scanStale st.2 s = .ok (c', acts', stale) →
        a.id ∉ stale ∧ find? acts' a.id = some b
  /-- The first periodic scan at or after that moment, after operations that are no periodic
  scan from then on, finds the record exactly when it is a stale candidate and leaves it claimed.
  Otherwise it schedules it again its age limit from the scan, or, when that limit is below a
  quantum, claims it and leaves it with no ticket. -/
  settles : ∀ ops₁ st₁ t₁ ops₂ st₂ t₂ s c' acts' stale,
    WheelRun (c₁, replace acts b) t ops₁ st₁ t₁ → (∀ op ∈ ops₁, op.Spares a.id) →
    t₁ < c.dueAt (c.bucketAfter timeout t) →
    WheelRun st₁ t₁ ops₂ st₂ t₂ → (∀ op ∈ ops₂, op.Spares a.id ∧ op ≠ .scanStale) →
    t₂ ≤ s → c.dueAt (c.bucketAfter timeout t) ≤ s →
    st₂.1.scanStale st₂.2 s = .ok (c', acts', stale) →
    (a.id ∈ stale ↔ b.isCandidate s = true ∧ b.isStale s = true) ∧
    (a.id ∈ stale → find? acts' a.id = some b.claim) ∧
    (a.id ∉ stale → c.quantum ≤ b.ageLimit →
      find? acts' a.id = some { b with cancelled := false, ticket := some (c.bucketAfter b.ageLimit s) }) ∧
    (a.id ∉ stale → b.ageLimit < c.quantum → find? acts' a.id = some b.claim)

namespace Consistent

variable {c₁ : Collector} {timeout : Duration} {t : Instant}

theorem scheduled_due (consistent : Consistent c acts t) :
    (c.bucketAfter timeout t = maxTicket ∨ t + timeout.toNanos ≤ c.dueAt (c.bucketAfter timeout t)) ∧
      c.dueAt (c.bucketAfter timeout t) < t + timeout.toNanos + c.quantum.toNanos := by
  have moment : t + timeout.toNanos ≤ c.dueAt (c.firstBucketAfter timeout t) ∧
      c.dueAt (c.firstBucketAfter timeout t) < t + timeout.toNanos + c.quantum.toNanos :=
    dueAt_firstBucketAfter consistent.positive consistent.early
  refine ⟨?_, Nat.lt_of_le_of_lt (dueAt_mono (Nat.min_le_left _ _)) moment.2⟩
  unfold bucketAfter
  rcases Nat.le_total (c.firstBucketAfter timeout t) maxTicket with below | above
  · rw [Nat.min_eq_left below]
    exact .inr moment.1
  · exact .inl (Nat.min_eq_right above)

theorem scheduled_waits (consistent : Consistent c acts t) (member : a ∈ acts)
    (scheduled : c.schedule a timeout t = .ok (.ok (c₁, b))) {ops : List WheelOp}
    {st : Collector × List Activation} {t' : Instant}
    (run : WheelRun (c₁, replace acts b) t ops st t')
    (spared : ∀ op ∈ ops, op.Spares a.id ∧ (op = .scanStale → t' < c.dueAt (c.bucketAfter timeout t)))
    (long : c.quantum ≤ timeout) :
    Consistent st.1 st.2 t' ∧ find? st.2 a.id = some b ∧ b.ticket = some (c.bucketAfter timeout t) ∧
      st.1.quantum = c.quantum ∧ st.1.epoch = c.epoch := by
  obtain ⟨-, -, placed⟩ := schedule_placed scheduled long consistent.positive
  have moved := retickets_schedule scheduled
  have ticket : b.ticket = some (c.bucketAfter timeout t) := by rw [placed]
  have found : find? (replace acts b) b.id = some b := by
    rw [moved.id, find?_replace consistent.holds.ids member, if_pos moved.id]
  -- before the moment, the bucket is not due: the scans of the run do not reach it
  have ahead : ∀ op ∈ ops, op.Spares b.id ∧ (op = .scanStale → c₁.lastDue t' < c.bucketAfter timeout t) := by
    intro op member
    obtain ⟨spares, before⟩ := spared op member
    refine ⟨moved.id ▸ spares, fun scan => ?_⟩
    rw [lastDue_congr moved.frame.quantum moved.frame.epoch]
    exact Nat.lt_of_not_le fun due =>
      Nat.not_le.mpr (before scan) ((le_lastDue_iff consistent.positive
        (Nat.le_trans consistent.early run.later)).mp due)
  obtain ⟨consistent', found', quantum, epoch⟩ :=
    spares_run (consistent.retickets member moved) found ticket run ahead
  exact ⟨consistent', moved.id ▸ found', ticket, quantum.trans moved.frame.quantum,
    epoch.trans moved.frame.epoch⟩

end Consistent

end Collector

/-- Collection timing of the wheel. Run the wheel's operations from a fresh wheel and records with
distinct ids that hold no ticket, then schedule record `a` with a timeout of at least a quantum.
It holds the ticket of the bucket after the timeout, due at a moment within a quantum after it
unless the ticket is the largest one. Along any run that spares the record, no periodic scan
before that moment finds or moves it. The first periodic scan at or after that moment finds it
exactly when it is a stale collection candidate. Otherwise that scan schedules it again its age
limit from the scan when that limit is at least a quantum, and when it is below, the record leaves
the wheel unfound. -/
theorem scan_collects_on_time {quantum timeout : Duration} {t₀ t : Instant}
    {acts₀ acts : List Activation} {ops₀ : List WheelOp} {c c₁ : Collector} {a b : Activation}
    (distinct : (acts₀.map (·.id)).Nodup) (unscheduled : ∀ x ∈ acts₀, x.ticket = none)
    (history : WheelRun (Collector.make quantum t₀, acts₀) t₀ ops₀ (c, acts) t)
    (member : a ∈ acts) (long : c.quantum ≤ timeout)
    (scheduled : c.schedule a timeout t = .ok (.ok (c₁, b))) :
    Collector.OnTime c c₁ acts t timeout a b := by
  have consistent : Collector.Consistent c acts t :=
    (Collector.Consistent.make quantum distinct unscheduled).run history
  obtain ⟨ordinary, -, placed⟩ := Collector.schedule_placed scheduled long consistent.positive
  refine ⟨⟨placed, consistent.scheduled_due⟩, ?_, ?_⟩
  · intro ops st t' run spared before
    obtain ⟨consistent', found, ticket, quantum', epoch'⟩ := consistent.scheduled_waits member scheduled
      run (fun op inside => ⟨spared op inside, fun _ => before⟩) long
    refine ⟨found, fun s later early c' acts' stale scanned => ?_⟩
    -- the scan at `s` does not reach the bucket, which is not due yet
    have unreached : ¬st.1.Reaches s b := by
      rintro ⟨k, held, due⟩
      rw [ticket] at held
      cases held
      rw [Collector.lastDue_congr quantum' epoch'] at due
      exact Nat.not_le.mpr early ((Collector.le_lastDue_iff consistent.positive
        (Nat.le_trans consistent.early (Nat.le_trans run.later later))).mp due)
    have named : b.id = a.id := (Collector.find?_mem found).2
    obtain ⟨-, unmoved⟩ :=
      (consistent'.later later).scanStale_follows (Collector.find?_mem found).1 scanned
    obtain ⟨read, counted⟩ := unmoved unreached
    rw [named] at read counted
    exact ⟨List.count_eq_zero.mp counted, read⟩
  · intro ops₁ st₁ t₁ ops₂ st₂ t₂ s c' acts' stale early spared₁ before quiet spared₂ later due scanned
    have named : b.id = a.id := (Collector.retickets_schedule scheduled).id
    obtain ⟨consistent₁, found₁, ticket, quantum₁, epoch₁⟩ := consistent.scheduled_waits member
      scheduled early (fun op inside => ⟨spared₁ op inside, fun _ => before⟩) long
    rw [← named] at found₁
    -- no periodic scan comes between the moment and `s`, so the record still waits
    obtain ⟨consistent₂, found₂, quantum₂, epoch₂⟩ := consistent₁.spares_run found₁ ticket quiet
      fun op inside => ⟨named ▸ (spared₂ op inside).1, fun scan => absurd scan (spared₂ op inside).2⟩
    have quantum := quantum₂.trans quantum₁
    have epoch := epoch₂.trans epoch₁
    have reaches : st₂.1.Reaches s b := by
      refine ⟨_, ticket, ?_⟩
      rw [Collector.lastDue_congr quantum epoch]
      exact (Collector.le_lastDue_iff consistent.positive
        (Nat.le_trans consistent.early (Nat.le_trans early.later (Nat.le_trans quiet.later later)))).mpr due
    have ordinary' : b.isExempt = false := by rw [placed]; exact ordinary
    obtain ⟨-, exits⟩ := (consistent₂.later later).scanStale_exits scanned
    obtain ⟨found, claimed, kept, dropped, -⟩ := exits b (Collector.find?_mem found₂).1
    rw [named] at found claimed kept dropped
    refine ⟨⟨fun inside => (found.mp inside).2, fun stale => found.mpr ⟨reaches, stale⟩⟩, claimed,
      fun unfound long' => ?_, fun unfound short => dropped reaches unfound (.inl (quantum ▸ short))⟩
    rw [kept reaches unfound (quantum ▸ long') ordinary', Collector.bucketAfter_congr quantum epoch]


/-- `briefRecord`, whose age limit of a second is below a ten-second quantum, kept alive for a
minute before it is scheduled. -/
def keptBriefRecord : Activation := briefRecord.delayDeactivation (.ofSecs 60) 0

/-- `keptBriefRecord` scheduled ten seconds on, on a fresh wheel of ten-second quanta. The scan
at ten seconds finds it kept alive, and its age limit is below the quantum, so that scan takes it
out of the wheel rather than scheduling it again. -/
theorem kept_brief_record_on_time :
    ∃ c₁ b, ([keptBriefRecord].map (·.id)).Nodup ∧ (∀ x ∈ [keptBriefRecord], x.ticket = none) ∧
      WheelRun (Collector.make (.ofSecs 10) 0, [keptBriefRecord]) 0 []
        (Collector.make (.ofSecs 10) 0, [keptBriefRecord]) 0 ∧
      keptBriefRecord ∈ [keptBriefRecord] ∧ (Collector.make (.ofSecs 10) 0).quantum ≤ .ofSecs 10 ∧
      (Collector.make (.ofSecs 10) 0).schedule keptBriefRecord (.ofSecs 10) 0 = .ok (.ok (c₁, b)) ∧
      Collector.OnTime (Collector.make (.ofSecs 10) 0) c₁ [keptBriefRecord] 0 (.ofSecs 10)
        keptBriefRecord b := by
  obtain ⟨c₁, b, scheduled⟩ : ∃ c₁ b,
      (Collector.make (.ofSecs 10) 0).schedule keptBriefRecord (.ofSecs 10) 0 = .ok (.ok (c₁, b)) :=
    ⟨_, _, rfl⟩
  have distinct : ([keptBriefRecord].map (·.id)).Nodup := List.nodup_singleton _
  have unscheduled : ∀ x ∈ [keptBriefRecord], x.ticket = none := fun x inside => by
    rw [List.mem_singleton.mp inside]
    rfl
  exact ⟨c₁, b, distinct, unscheduled, .nil _ _, List.mem_singleton_self _, by decide, scheduled,
    scan_collects_on_time distinct unscheduled (.nil _ _) (List.mem_singleton_self _) (by decide)
      scheduled⟩

end ActorSilo
