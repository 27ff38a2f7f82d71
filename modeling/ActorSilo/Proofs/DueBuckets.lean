import Mathlib.Order.Interval.Finset.Nat
import ActorSilo.Proofs.WheelConsistency

/-! # The periodic scan takes exactly the buckets due

Bucket `k` falls due `k` quanta after the epoch, but never later than the largest ticket after it
(`Collector.deadline`). While the clock is within that range, bucket `k` is due exactly when `k`
is at most the whole quanta since the epoch (`Collector.deadline_le_iff`), and when every age
limit fits on the clock the scan returns (`Collector.scanStale_returns`). It then takes the due
buckets not yet scanned in ascending order, each once, and leaves no bucket and no ticket due
(`Collector.ScansDue`).

**Main result:** `Collector.scanStale_takes_due_buckets`.
-/

namespace ActorSilo

theorem foldlM_ok {ε α β : Type} {f : β → α → Except ε β} (I : β → Prop)
    (step : ∀ b x, I b → ∃ b', f b x = .ok b' ∧ I b') :
    ∀ (l : List α) (b : β), I b → ∃ r, l.foldlM f b = .ok r ∧ I r
  | [], b, holds => ⟨b, rfl, holds⟩
  | x :: rest, b, holds => by
    obtain ⟨b', first, holds'⟩ := step b x holds
    obtain ⟨r, folded, final⟩ := foldlM_ok I step rest b' holds'
    refine ⟨r, ?_, final⟩
    rw [List.foldlM_cons, first]
    exact folded

theorem foldlM_ne_error {ε α β : Type} {f : β → α → Except ε β} (I : β → Prop)
    (step : ∀ b x, I b → ∃ b', f b x = .ok b' ∧ I b') (l : List α) (b : β) (holds : I b)
    (e : ε) : l.foldlM f b ≠ .error e := by
  obtain ⟨r, folded, -⟩ := foldlM_ok I step l b holds
  rw [folded]
  intro failed
  cases failed

theorem Activation.Reticketed.ageLimit {a b : Activation} (moved : a.Reticketed b) :
    b.ageLimit = a.ageLimit :=
  (congrArg Activation.ageLimit moved).symm

namespace Collector

variable {c c' : Collector} {acts acts' : List Activation} {now : Instant} {k : Nat}
  {timeout : Duration}

/-! ## Deadlines and due buckets -/

/-- Within the range of tickets, bucket `k` is due exactly when it is at most the last bucket
due. -/
theorem deadline_le_iff (positive : 0 < c.quantum.toNanos) (early : c.epoch ≤ now)
    (inRange : now - c.epoch < maxTicket) (k : Nat) : c.deadline k ≤ now ↔ k ≤ c.lastDue now := by
  unfold deadline lastDue
  rw [Nat.le_div_iff_mul_le positive, Nat.mul_comm k]
  -- a capped deadline is past `now`, and so is the bucket
  unfold Instant at *
  rcases Nat.le_total (c.quantum.toNanos * k) maxTicket with below | capped
  · rw [Nat.min_eq_left below]
    omega
  · rw [Nat.min_eq_right capped]
    omega

theorem lt_deadline_iff (positive : 0 < c.quantum.toNanos) (early : c.epoch ≤ now)
    (inRange : now - c.epoch < maxTicket) (k : Nat) : now < c.deadline k ↔ c.lastDue now < k := by
  rw [← Nat.not_le, deadline_le_iff positive early inRange, Nat.not_le]

theorem mem_dueKeys (positive : 0 < c.quantum.toNanos) (early : c.epoch ≤ now)
    (inRange : now - c.epoch < maxTicket) :
    k ∈ c.dueKeys now ↔ k ∈ c.buckets.map (·.1) ∧ c.nextTicket ≤ k ∧ c.deadline k ≤ now := by
  rw [deadline_le_iff positive early inRange]
  simp [dueKeys]

theorem dueKeys_eq_nil (idle : c.lastDue now < c.nextTicket) : c.dueKeys now = [] := by
  refine List.filter_eq_nil_iff.mpr fun k _ => ?_
  simp only [Bool.and_eq_true, decide_eq_true_eq, not_and, Nat.not_le]
  omega

theorem dueKeys_length_le (sorted : Ascending c.buckets) :
    (c.dueKeys now).length ≤ c.lastDue now + 1 - c.nextTicket := by
  have nodup : (c.dueKeys now).Nodup :=
    ((List.pairwise_map.mpr sorted).filter _).imp Nat.ne_of_lt
  have within : (c.dueKeys now).toFinset ⊆ Finset.Icc c.nextTicket (c.lastDue now) := by
    intro k member
    simp only [List.mem_toFinset, dueKeys, List.mem_filter, Bool.and_eq_true,
      decide_eq_true_eq] at member
    exact Finset.mem_Icc.mpr member.2
  calc (c.dueKeys now).length
      _ = (c.dueKeys now).toFinset.card := (List.toFinset_card_of_nodup nodup).symm
      _ ≤ (Finset.Icc c.nextTicket (c.lastDue now)).card := Finset.card_le_card within
      _ = c.lastDue now + 1 - c.nextTicket := Nat.card_Icc _ _

/-! ## The scan returns -/

/-- Every record's age limit fits on the clock from `now`. -/
def AgeLimitsFit (acts : List Activation) (now : Instant) : Prop :=
  ∀ a ∈ acts, now.add? a.ageLimit ≠ none

theorem AgeLimitsFit.replace (fits : AgeLimitsFit acts now) {a b : Activation} (member : a ∈ acts)
    (same : b.ageLimit = a.ageLimit) : AgeLimitsFit (replace acts b) now := by
  intro x inside
  rcases mem_replace inside with rfl | old
  · rw [same]
    exact fits a member
  · exact fits x old

theorem ticketFor_returns (fits : now.add? timeout ≠ none) (next : Nat) :
    ∃ r, c.ticketFor next timeout now = .ok r := by
  by_cases short : timeout < c.quantum
  · exact ⟨_, ticketFor_short short⟩
  obtain ⟨due, fits⟩ := Option.ne_none_iff_exists'.mp fits
  rw [ticketFor_fits short fits]
  split <;> exact ⟨_, rfl⟩

theorem schedule_returns (fits : now.add? timeout ≠ none) (a : Activation) :
    ∃ r, c.schedule a timeout now = .ok r := by
  unfold schedule
  split
  · exact ⟨_, rfl⟩
  split
  · exact ⟨_, rfl⟩
  split
  · exact ⟨_, rfl⟩
  obtain ⟨r, given⟩ := ticketFor_returns (c := c) fits c.nextTicket
  rw [given]
  cases r <;> exact ⟨_, rfl⟩

theorem scanBucket_returns (fits : AgeLimitsFit acts now) (k : Nat) :
    ∃ r, c.scanBucket acts k now = .ok r ∧ AgeLimitsFit r.2.1 now := by
  unfold scanBucket
  refine foldlM_ok (fun st : Collector × List Activation × List Nat => AgeLimitsFit st.2.1 now)
    ?_ _ _ fits
  rintro ⟨c, acts, stale⟩ id fits
  dsimp only at fits ⊢
  rcases found : find? acts id with _ | a
  · exact ⟨_, rfl, fits⟩
  have member := (find?_mem found).1
  dsimp only
  split
  · exact ⟨_, rfl, fits⟩
  split
  · exact ⟨_, rfl, fits.replace member rfl⟩
  -- a record kept is scheduled again with its own age limit, which fits
  obtain ⟨r, placed⟩ :=
    schedule_returns (c := c) (fits a member) { a with cancelled := true, ticket := none }
  rw [placed]
  rcases r with e | ⟨c', b⟩
  · exact ⟨_, rfl, fits.replace member rfl⟩
  · exact ⟨_, rfl, fits.replace member (retickets_schedule placed).reticketed.ageLimit⟩

/-- Within the range of tickets, when every age limit fits on the clock, the scan returns. -/
theorem scanStale_returns (inRange : now - c.epoch < maxTicket) (fits : AgeLimitsFit acts now) :
    ∃ r, c.scanStale acts now = .ok r := by
  unfold scanStale
  dsimp only [bind, Except.bind, pure, Except.pure]
  rw [if_neg (Nat.not_le.mpr inRange)]
  split
  · exact ⟨_, rfl⟩
  -- every due bucket's scan returns, and leaves age limits that fit
  split
  · rename_i failed
    refine (foldlM_ne_error
      (fun st : Collector × List Activation × List Nat => AgeLimitsFit st.2.1 now) ?_ _ _ fits _
      failed).elim
    rintro ⟨c, acts, stale⟩ k fits
    obtain ⟨⟨c', acts', found⟩, scanned, fits'⟩ := scanBucket_returns (c := c) fits k
    exact ⟨(c', acts', stale ++ found), by rw [scanned], fits'⟩
  · exact ⟨_, rfl⟩

/-! ## Buckets not due keep their ids -/

theorem idsAt_insert (t : Nat) (ids : List Nat) (j : Nat) :
    ∀ bs, idsAt (setBucket.insert t ids bs) j = if j = t then ids else idsAt bs j
  | [] => by
    by_cases same : j = t
    · simp [setBucket.insert, idsAt, same]
    · simp [setBucket.insert, idsAt, Ne.symm same, same]
  | (k, v) :: rest => by
    have later := idsAt_insert t ids j rest
    simp only [setBucket.insert]
    split
    · -- the bucket is there: its ids are replaced
      rename_i here
      have here : k = t := by simpa using here
      subst here
      by_cases same : j = k
      · simp [idsAt, same]
      · simp [idsAt, same, Ne.symm same]
    split
    · -- a new bucket goes before the first later one
      by_cases same : j = t
      · simp [idsAt, same]
      · simp [idsAt, same, Ne.symm same]
    · -- an earlier bucket stays in front
      rename_i here _
      have here : k ≠ t := by simpa using here
      by_cases key : k = j
      · subst key
        simp [idsAt, here]
      · simpa [idsAt, key] using later

theorem idsAt_filter_ne {t j : Nat} (other : j ≠ t) (bs : List (Nat × List Nat)) :
    idsAt (bs.filter (·.1 != t)) j = idsAt bs j := by
  simp only [idsAt, List.find?_filter]
  -- a bucket keyed `j` is never one that is dropped
  have kept : (fun b : Nat × List Nat => decide ((b.1 != t) = true ∧ (b.1 == j) = true)) =
      (·.1 == j) := by
    funext b
    by_cases key : b.1 = j
    · simp [key, other]
    · simp [key]
  rw [kept]

theorem schedule_grows {a b : Activation} (placed : c.schedule a timeout now = .ok (.ok (c', b)))
    (j : Nat) : (c.bucket? j).getD [] <+: (c'.bucket? j).getD [] := by
  unfold schedule at placed
  split at placed
  · cases placed
  split at placed
  · cases placed
    exact List.prefix_refl _
  split at placed
  · cases placed
  rcases ticket : c.ticketFor c.nextTicket timeout now with _ | (_ | t)
  all_goals rw [ticket] at placed
  · cases placed
  · cases placed
  · cases placed
    show idsAt c.buckets j <+: idsAt (setBucket.insert t _ c.buckets) j
    rw [idsAt_insert]
    split
    · rename_i same
      subst same
      exact List.prefix_append _ _
    · exact List.prefix_refl _

theorem Visit.grows {st st' : Collector × List Activation × List Nat} {id : Nat}
    (visit : Visit k now st id st') (j : Nat) :
    (st.1.bucket? j).getD [] <+: (st'.1.bucket? j).getD [] := by
  cases visit with
  | keep _ _ _ _ placed => exact schedule_grows placed j
  | skip => exact List.prefix_refl _
  | take => exact List.prefix_refl _
  | drop => exact List.prefix_refl _

theorem Visits.grows {st st' : Collector × List Activation × List Nat} {ids : List Nat}
    (walk : Visits k now st ids st') (j : Nat) :
    (st.1.bucket? j).getD [] <+: (st'.1.bucket? j).getD [] := by
  induction walk with
  | nil => exact List.prefix_refl _
  | cons visit _ later => exact (visit.grows j).trans later

theorem Sweeps.keeps_later {st st' : Collector × List Activation × List Nat} {ks : List Nat}
    (walk : Sweeps now st ks st') {last j : Nat} (due : ∀ k ∈ ks, k ≤ last) (later : last < j) :
    (st.1.bucket? j).getD [] <+: (st'.1.bucket? j).getD [] := by
  induction walk with
  | nil => exact List.prefix_refl _
  | @cons s s₁ s₂ k ks sweep _ ih =>
    -- dropping bucket `k` leaves bucket `j` alone, and the visits only add to it
    have other : j ≠ k := by
      have := due k (.head _)
      omega
    have grown : idsAt (s.1.buckets.filter (·.1 != k)) j <+: (s₁.1.bucket? j).getD [] :=
      sweep.grows j
    rw [idsAt_filter_ne other] at grown
    exact grown.trans (ih fun k' inside => due k' (.tail _ inside))

/-! ## What the scan leaves -/

/-- What the periodic scan at `now` made of the wheel `c` and the records `acts`: the wheel
`c'`, the records `acts'` and the ids `stale` found. The scan took the due buckets not yet
scanned one after another, in ascending order; the first bucket not yet scanned is now just past
the last one due, or where it was when that was later; a bucket not due keeps its ids, in front;
no bucket left and no ticket a record holds is due; and the wheel is still consistent. -/
structure ScansDue (c : Collector) (acts : List Activation) (now : Instant) (c' : Collector)
    (acts' : List Activation) (stale : List Nat) : Prop where
  walk : ∃ st, Sweeps now (c, acts, []) (c.dueKeys now) st ∧ c'.buckets = st.1.buckets ∧
    acts' = st.2.1 ∧ stale = st.2.2
  next : c'.nextTicket = max c.nextTicket (c.lastDue now + 1)
  later : ∀ k, now < c.deadline k → (c.bucket? k).getD [] <+: (c'.bucket? k).getD []
  buckets : ∀ x ∈ c'.buckets, now < c.deadline x.1
  tickets : ∀ a ∈ acts', ∀ k, a.ticket = some k → now < c.deadline k
  consistent : c'.Consistent acts' now

theorem scanStale_nextTicket {stale : List Nat}
    (scanned : c.scanStale acts now = .ok (c', acts', stale)) :
    c'.nextTicket = max c.nextTicket (c.lastDue now + 1) := by
  obtain ⟨-, ⟨idle, same⟩ | ⟨due, st, -, moved⟩⟩ := scanStale_sweeps scanned
  · cases same
    omega
  · cases moved
    show c.lastDue now + 1 = _
    omega

theorem Consistent.scansDue (consistent : c.Consistent acts now)
    (inRange : now - c.epoch < maxTicket) {stale : List Nat}
    (scanned : c.scanStale acts now = .ok (c', acts', stale)) : ScansDue c acts now c' acts' stale := by
  have after := consistent.scanStale scanned
  have next := scanStale_nextTicket scanned
  have notDue := lt_deadline_iff consistent.positive consistent.early inRange
  -- nothing at or after the first bucket not yet scanned is due
  have ahead : ∀ k, c'.nextTicket ≤ k → now < c.deadline k := fun k late => by
    rw [notDue]
    omega
  have buckets : ∀ x ∈ c'.buckets, now < c.deadline x.1 := fun x member =>
    ahead x.1 (after.holds.future x member)
  have tickets : ∀ a ∈ acts', ∀ k, a.ticket = some k → now < c.deadline k :=
    fun a member k ticket => ahead k (after.holds.ticket_future member ticket)
  obtain ⟨-, ⟨idle, same⟩ | ⟨due, st, walk, moved⟩⟩ := scanStale_sweeps scanned
  · -- nothing is due: the scan hands back the wheel and the records as they were
    cases same
    refine ⟨⟨(c, acts, []), ?_, rfl, rfl, rfl⟩, next, fun k _ => List.prefix_refl _, buckets,
      tickets, after⟩
    rw [dueKeys_eq_nil idle]
    exact .nil _
  · cases moved
    refine ⟨⟨st, walk, rfl, rfl, rfl⟩, next, fun k late => walk.keeps_later ?_ ((notDue k).mp late),
      buckets, tickets, after⟩
    -- the due keys are at most the last bucket due
    intro k' inside
    have range := (List.mem_filter.mp inside).2
    simp only [Bool.and_eq_true, decide_eq_true_eq] at range
    exact range.2

/-- The periodic scan takes exactly the buckets due. On a consistent wheel, while the clock is
less than the largest ticket past the epoch and every record's age limit fits on the clock, the
buckets the scan takes are the buckets not yet scanned whose deadline has come, at most one for
each ticket from the first not yet scanned to the last due, and the scan returns what `ScansDue`
says. -/
theorem scanStale_takes_due_buckets (consistent : c.Consistent acts now)
    (inRange : now - c.epoch < maxTicket) (fits : AgeLimitsFit acts now) :
    (∀ k, k ∈ c.dueKeys now ↔ k ∈ c.buckets.map (·.1) ∧ c.nextTicket ≤ k ∧ c.deadline k ≤ now) ∧
      (c.dueKeys now).length ≤ c.lastDue now + 1 - c.nextTicket ∧
      ∃ c' acts' stale, c.scanStale acts now = .ok (c', acts', stale) ∧
        ScansDue c acts now c' acts' stale := by
  obtain ⟨⟨c', acts', stale⟩, scanned⟩ := scanStale_returns inRange fits
  exact ⟨fun k => mem_dueKeys consistent.positive consistent.early inRange,
    dueKeys_length_le consistent.holds.sorted, c', acts', stale, scanned,
    consistent.scansDue inRange scanned⟩

/-- `idleRecord` holding the ticket of bucket 1. -/
def scheduledRecord : Activation := { idleRecord with cancelled := false, ticket := some 1 }

/-- A wheel of ten-second quanta made at time zero whose bucket 1 holds `scheduledRecord`. -/
def scheduledWheel : Collector := (make (.ofSecs 10) 0).setBucket 1 [scheduledRecord.id]

/-- At twenty seconds the bucket of `scheduledRecord` is due on `scheduledWheel`, and the scan
takes it as `scanStale_takes_due_buckets` says. -/
theorem scheduled_record_bucket_taken :
    scheduledWheel.Consistent [scheduledRecord] (Duration.ofSecs 20).toNanos ∧
      (Duration.ofSecs 20).toNanos - scheduledWheel.epoch < maxTicket ∧
      AgeLimitsFit [scheduledRecord] (Duration.ofSecs 20).toNanos ∧
      (∀ k, k ∈ scheduledWheel.dueKeys (Duration.ofSecs 20).toNanos ↔
        k ∈ scheduledWheel.buckets.map (·.1) ∧ scheduledWheel.nextTicket ≤ k ∧
          scheduledWheel.deadline k ≤ (Duration.ofSecs 20).toNanos) ∧
      (scheduledWheel.dueKeys (Duration.ofSecs 20).toNanos).length ≤
        scheduledWheel.lastDue (Duration.ofSecs 20).toNanos + 1 - scheduledWheel.nextTicket ∧
      ∃ c' acts' stale,
        scheduledWheel.scanStale [scheduledRecord] (Duration.ofSecs 20).toNanos = .ok (c', acts', stale) ∧
          ScansDue scheduledWheel [scheduledRecord] (Duration.ofSecs 20).toNanos c' acts' stale := by
  -- the wheel is what scheduling `idleRecord` ten seconds on makes of a fresh one
  have run : WheelRun (make (.ofSecs 10) 0, [idleRecord]) 0 [.schedule idleRecord.id (.ofSecs 10)]
      (scheduledWheel, [scheduledRecord]) 0 := .step (Nat.le_refl 0) rfl (.nil _ _)
  have unscheduled : ∀ a ∈ [idleRecord], a.ticket = none := fun a inside => by
    rw [List.mem_singleton.mp inside]
    rfl
  have distinct : ([idleRecord].map (·.id)).Nodup := List.nodup_singleton _
  have consistent : scheduledWheel.Consistent [scheduledRecord] (Duration.ofSecs 20).toNanos :=
    ((Consistent.make (.ofSecs 10) distinct unscheduled).run run).later (by decide)
  have inRange : (Duration.ofSecs 20).toNanos - scheduledWheel.epoch < maxTicket := by decide
  have fits : AgeLimitsFit [scheduledRecord] (Duration.ofSecs 20).toNanos := fun a inside => by
    rw [List.mem_singleton.mp inside]
    decide
  exact ⟨consistent, inRange, fits, scanStale_takes_due_buckets consistent inRange fits⟩

end Collector

end ActorSilo
