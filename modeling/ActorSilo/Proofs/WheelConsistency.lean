import ActorSilo.Proofs.StaleScan
import ActorSilo.Proofs.CollectionTiming

/-! # The wheel stays consistent with its records

The wheel holds each scheduled record twice: as an entry of the bucket its ticket names, and as
the ticket the record holds. Along every run of operations at times that never go backwards
(`WheelRun`), the two sides agree and every bucket and ticket is at or after the first bucket not
yet scanned (`Collector.Consistent`). What an operation that succeeds does is read off its code
once (`WheelOp.Applied`).

**Main result:** `wheel_consistent`.
-/

namespace ActorSilo

namespace Collector

variable {c c' c₀ : Collector} {acts : List Activation} {pending : List (Nat × Nat)}
  {a b : Activation} {k n : Nat} {now : Instant}

/-! ## Records with distinct ids -/

theorem find?_of_mem (ids : (acts.map (·.id)).Nodup) (member : a ∈ acts) :
    find? acts a.id = some a := by
  obtain ⟨x, found⟩ : ∃ x, find? acts a.id = some x :=
    Option.isSome_iff_exists.mp (List.find?_isSome.mpr ⟨a, member, by simp⟩)
  obtain ⟨inside, same⟩ := find?_mem found
  rw [found, eq_of_id_eq ids inside member same]

theorem replace_replace (same : b.id = a.id) : replace (replace acts a) b = replace acts b := by
  simp only [replace, List.map_map]
  refine List.map_congr_left fun x _ => ?_
  by_cases named : x.id = a.id <;> simp [named, same]

/-! ## Entries behind the first bucket not yet scanned -/

theorem count_entries_behind (future : ∀ x ∈ c.buckets, n ≤ x.1) {x : Nat × Nat} (behind : x.1 < n) :
    c.entries.count x = 0 := by
  refine List.count_eq_zero.mpr fun member => ?_
  obtain ⟨bucket, inside, key⟩ := mem_entries member
  have := future bucket inside
  omega

theorem count_holding_behind (later : ∀ k, a.ticket = some k → n ≤ k) {x : Nat × Nat}
    (behind : x.1 < n) : (holding a).count x = 0 := by
  refine List.count_eq_zero.mpr fun member => ?_
  rcases ticket : a.ticket with _ | k
  · simp [holding, ticket] at member
  · simp only [holding, ticket, Option.map_some, Option.toList_some, List.mem_singleton] at member
    subst member
    have := later k ticket
    dsimp only at behind
    omega

namespace Holds

theorem backs (holds : Holds c acts []) (member : a ∈ acts) : c.Backs a := by
  intro k ticket _
  have entry := holds.held_entry member ticket
  rw [List.append_nil] at entry
  exact ⟨holds.unclaimed a member (by simp [ticket]), entry⟩

/-- A trade with one record whose ticket, if any, is not behind the first bucket not yet scanned
keeps the wheel and the records in step, whatever entries are pending behind that bucket. -/
theorem retickets (holds : Holds c acts pending) (behind : ∀ x ∈ pending, x.1 < c.nextTicket)
    (member : a ∈ acts) (later : ∀ k, a.ticket = some k → c.nextTicket ≤ k)
    (moved : Retickets c a c' b) : Holds c' (replace acts b) pending where
  ids := by
    rw [replace_ids]
    exact holds.ids
  sorted := moved.sorted holds.sorted
  perm := by
    refine List.perm_iff_count.mpr fun x => ?_
    have records := (held_replace holds.ids member moved.id).count_eq x
    have before := holds.perm.count_eq x
    simp only [List.count_append] at records before ⊢
    by_cases ahead : c.nextTicket ≤ x.1
    · -- from the first bucket not yet scanned on, the trade moves entries and tickets together
      have traded := moved.counts holds.sorted x ahead
      have unpended : pending.count x = 0 :=
        List.count_eq_zero.mpr fun inside => by
          have := behind x inside
          omega
      omega
    · -- behind it neither the wheel nor the record holds anything
      have future' : ∀ y ∈ c'.buckets, c.nextTicket ≤ y.1 := moved.future holds.future
      have gone := count_entries_behind future' (Nat.lt_of_not_le ahead)
      have gone₀ := count_entries_behind holds.future (Nat.lt_of_not_le ahead)
      have left := count_holding_behind later (Nat.lt_of_not_le ahead)
      have right := count_holding_behind (a := b) (fun k ticket => by
        rcases moved.fresh k ticket with fresh | same
        · exact fresh
        · exact later k (same ▸ ticket)) (Nat.lt_of_not_le ahead)
      omega
  unclaimed x inside scheduled := by
    rcases mem_replace inside with rfl | old
    · exact moved.unclaimed (holds.unclaimed a member) scheduled
    · exact holds.unclaimed x old scheduled
  future := by
    rw [moved.frame.nextTicket]
    exact moved.future holds.future

theorem claim (holds : Holds c acts ((k, a.id) :: pending)) (member : a ∈ acts)
    (ticket : a.ticket = some k) : Holds c (replace acts a.claim) pending where
  ids := by
    rw [replace_ids]
    exact holds.ids
  sorted := holds.sorted
  perm := by
    refine List.perm_iff_count.mpr fun x => ?_
    have records := (held_replace holds.ids member (Activation.claim_id a)).count_eq x
    have before := holds.perm.count_eq x
    have holding_a : holding a = [(k, a.id)] := by simp [holding, ticket]
    have holding_claim : holding a.claim = [] := rfl
    rw [holding_a, holding_claim] at records
    simp only [List.count_append, List.count_cons, List.count_nil] at records before ⊢
    omega
  unclaimed x inside scheduled := by
    rcases mem_replace inside with rfl | old
    · simp at scheduled
    · exact holds.unclaimed x old scheduled
  future := holds.future

end Holds

/-! ## The periodic scan -/

/-- The state `st` of the periodic scan at `now` of the wheel `c₀`, with the first bucket not yet
scanned at `n`, the entries `pending` of the bucket being scanned still to visit and the due
buckets `ks` still ahead: the wheel and the records are in step once the pending entries are
counted, the pending entries are behind `n`, and every bucket of the wheel is a due one still
ahead or comes after the last one due. -/
structure Scanning (c₀ : Collector) (now : Instant) (n : Nat) (pending : List (Nat × Nat))
    (ks : List Nat) (st : Collector × List Activation × List Nat) : Prop where
  holds : Holds st.1 st.2.1 pending
  quantum : st.1.quantum = c₀.quantum
  epoch : st.1.epoch = c₀.epoch
  next : st.1.nextTicket = n
  behind : ∀ x ∈ pending, x.1 < n
  bounded : n ≤ c₀.lastDue now + 1
  keys : ∀ x ∈ st.1.buckets, x.1 ∈ ks ∨ c₀.lastDue now < x.1
  sorted : ks.Pairwise (· < ·)
  ahead : ∀ k ∈ ks, n ≤ k ∧ k ≤ c₀.lastDue now

namespace Scanning

variable {ks : List Nat} {st st' : Collector × List Activation × List Nat}

theorem start (holds : Holds c₀ acts []) (due : c₀.nextTicket ≤ c₀.lastDue now) :
    Scanning c₀ now c₀.nextTicket [] (c₀.dueKeys now) (c₀, acts, []) where
  holds := holds
  quantum := rfl
  epoch := rfl
  next := rfl
  behind := fun _ inside => by cases inside
  bounded := by omega
  keys x member := by
    by_cases late : c₀.lastDue now < x.1
    · exact .inr late
    · refine .inl (List.mem_filter.mpr ⟨List.mem_map_of_mem member, ?_⟩)
      have := holds.future x member
      simp only [Bool.and_eq_true, decide_eq_true_eq]
      omega
  sorted := (List.pairwise_map.mpr holds.sorted).filter _
  ahead k member := by
    obtain ⟨_, range⟩ := List.mem_filter.mp member
    simp only [Bool.and_eq_true, decide_eq_true_eq] at range
    exact range

theorem enter (scan : Scanning c₀ now n [] (k :: ks) (c, acts, stale)) :
    Scanning c₀ now (k + 1) (((c.bucket? k).getD []).map (k, ·)) ks
      ({ c.dropBucket k with nextTicket := k + 1 }, acts, stale) := by
  have first := scan.ahead k (.head _)
  have later : ∀ k' ∈ ks, k < k' := (List.pairwise_cons.mp scan.sorted).1
  have sorted : Ascending c.buckets := scan.holds.sorted
  -- a bucket other than `k` is a due one further ahead, or comes after the last one due
  have beyond : ∀ x ∈ (c.dropBucket k).buckets, x.1 ∈ ks ∨ c₀.lastDue now < x.1 := by
    intro x member
    obtain ⟨old, other⟩ := List.mem_filter.mp member
    rcases scan.keys x old with ahead | late
    · rcases List.mem_cons.mp ahead with same | further
      · simp [same] at other
      · exact .inl further
    · exact .inr late
  exact {
    holds := {
      ids := scan.holds.ids
      sorted := dropBucket_ascending sorted
      perm := (entries_dropBucket sorted).trans (by simpa using scan.holds.perm)
      unclaimed := scan.holds.unclaimed
      future := fun x member => by
        show k + 1 ≤ x.1
        rcases beyond x member with ahead | late
        · exact later x.1 ahead
        · omega }
    quantum := scan.quantum
    epoch := scan.epoch
    next := rfl
    behind := fun x member => by
      obtain ⟨_, _, rfl⟩ := List.mem_map.mp member
      exact Nat.lt_succ_self k
    bounded := by omega
    keys := beyond
    sorted := (List.pairwise_cons.mp scan.sorted).2
    ahead := fun k' member => ⟨later k' member, (scan.ahead k' (.tail _ member)).2⟩ }

section Visits

variable (positive : 0 < c₀.quantum.toNanos) (early : c₀.epoch ≤ now)
  (room : c₀.lastDue now < maxTicket)

include positive early room

theorem visit {id : Nat} (scan : Scanning c₀ now (k + 1) ((k, id) :: pending) ks (c, acts, stale))
    (visited : Visit k now (c, acts, stale) id st') : Scanning c₀ now (k + 1) pending ks st' := by
  have behind : ∀ x ∈ pending, x.1 < k + 1 := fun x inside => scan.behind x (.tail _ inside)
  cases visited with
  | skip unmarked =>
    -- the pending entry is a ticket some record holds, unclaimed: the skip cannot happen
    exfalso
    have entry : (k, id) ∈ held acts :=
      scan.holds.perm.subset (List.mem_append_right _ (.head _))
    obtain ⟨a, member, ticket, named⟩ := mem_held.mp entry
    have found := find?_of_mem scan.holds.ids member
    rw [named] at found
    have claimed := unmarked a found ticket
    rw [scan.holds.unclaimed a member (by simp [ticket])] at claimed
    cases claimed
  | take found ticket _ _ _ =>
    obtain ⟨member, named⟩ := find?_mem found
    subst named
    exact { scan with
      holds := scan.holds.claim member ticket
      behind := behind }
  | drop found ticket _ _ _ =>
    obtain ⟨member, named⟩ := find?_mem found
    subst named
    exact { scan with
      holds := scan.holds.claim member ticket
      behind := behind }
  | @keep _ _ _ _ a c₁ b found ticket _ _ placed =>
    obtain ⟨member, named⟩ := find?_mem found
    subst named
    have claimed := scan.holds.claim member ticket
    have moved := retickets_schedule placed
    have next : c.nextTicket = k + 1 := scan.next
    have traded := claimed.retickets (next ▸ behind)
      (List.mem_map.mpr ⟨a, member, by simp⟩) (fun k' held => by simp at held) moved
    rw [replace_replace moved.id] at traded
    exact {
      holds := traded
      quantum := moved.frame.quantum.trans scan.quantum
      epoch := moved.frame.epoch.trans scan.epoch
      next := moved.frame.nextTicket.trans scan.next
      behind := behind
      bounded := scan.bounded
      keys := fun x inside => by
        rcases schedule_buckets placed x inside with old | ⟨long, key⟩
        · exact scan.keys x old
        · right
          rw [key, bucketAfter_congr scan.quantum scan.epoch]
          exact lastDue_lt_bucketAfter positive (scan.quantum ▸ long) early room
      sorted := scan.sorted
      ahead := scan.ahead }

theorem visits {ids : List Nat} (walk : Visits k now st ids st')
    (scan : Scanning c₀ now (k + 1) (ids.map (k, ·)) ks st) : Scanning c₀ now (k + 1) [] ks st' :=
  Walks.invariant (fun st ids => Scanning c₀ now (k + 1) (ids.map (k, ·)) ks st)
    (fun ⟨_, _, _⟩ _ _ _ visited scan => scan.visit positive early room visited) walk scan

theorem sweeps (walk : Sweeps now st ks st') (scan : Scanning c₀ now n [] ks st) :
    ∃ n', Scanning c₀ now n' [] [] st' := by
  refine Walks.invariant (fun st ks => ∃ n, Scanning c₀ now n [] ks st) ?_ walk ⟨n, scan⟩
  rintro ⟨c, acts, stale⟩ k ks r scanned ⟨n, scan⟩
  exact ⟨k + 1, scan.enter.visits positive early room scanned⟩

end Visits

theorem finish (scan : Scanning c₀ now n [] [] st) :
    Holds { st.1 with nextTicket := c₀.lastDue now + 1 } st.2.1 [] where
  ids := scan.holds.ids
  sorted := scan.holds.sorted
  perm := scan.holds.perm
  unclaimed := scan.holds.unclaimed
  future x member := by
    rcases scan.keys x member with ahead | late
    · cases ahead
    · exact late

end Scanning

namespace Holds

/-- The periodic scan keeps the wheel and the records in step, and either finds nothing due or
moves the first bucket not yet scanned to just after the last one due. -/
theorem scanStale (holds : Holds c acts []) (positive : 0 < c.quantum.toNanos)
    (early : c.epoch ≤ now) {r : Collector × List Activation × List Nat}
    (scanned : c.scanStale acts now = .ok r) :
    Holds r.1 r.2.1 [] ∧ r.1.quantum = c.quantum ∧ r.1.epoch = c.epoch ∧
      (r.1.nextTicket = c.nextTicket ∨ r.1.nextTicket = c.lastDue now + 1) ∧
      c.lastDue now < maxTicket := by
  obtain ⟨room, idle | ⟨due, st, walk, result⟩⟩ := scanStale_sweeps scanned
  · obtain ⟨-, rfl⟩ := idle
    exact ⟨holds, rfl, rfl, .inl rfl, room⟩
  · obtain ⟨n, scan⟩ := (Scanning.start holds due).sweeps positive early room walk
    subst result
    exact ⟨scan.finish, scan.quantum, scan.epoch, .inr rfl, room⟩

end Holds

/-! ## The forced scan -/

theorem removeFrom_kept {t : Nat} (kept : (c.removeFrom a t).2.2 = false) :
    c.removeFrom a t = (c, a, false) := by
  unfold removeFrom at kept ⊢
  rcases found : c.bucket? t with _ | ids
  · rfl
  simp only [found] at kept ⊢
  split at kept
  · cases kept
  · rw [if_neg ‹_›]

namespace Holds

/-- The forced scan takes records out of their buckets one at a time, so it keeps the wheel and
the records in step and the first bucket not yet scanned where it was. -/
theorem scanAll (holds : Holds c acts []) (age : Duration) (now : Instant) :
    Holds (c.scanAll acts age now).1 (c.scanAll acts age now).2.1 [] ∧
      Frame c (c.scanAll acts age now).1 := by
  unfold Collector.scanAll
  refine foldl_invariant (fun st : Collector × List Activation × List Nat => Holds st.1 st.2.1 [] ∧ Frame c st.1)
    ?_ _ _ ⟨holds, .refl c⟩
  rintro st ⟨k, ids⟩ kept
  refine foldl_invariant (fun st : Collector × List Activation × List Nat => Holds st.1 st.2.1 [] ∧ Frame c st.1)
    ?_ ids st kept
  rintro ⟨c₁, acts₁, taken⟩ id ⟨holds₁, frame₁⟩
  dsimp only
  rcases found : find? acts₁ id with _ | a
  · exact ⟨holds₁, frame₁⟩
  dsimp only
  obtain ⟨member, -⟩ := find?_mem found
  split
  · rcases result : c₁.removeFrom a k with ⟨c₂, a₂, _ | _⟩
    · -- nothing was taken out, and nothing changed
      have same := (removeFrom_kept (by rw [result])).symm.trans result
      cases same
      exact ⟨holds₁, frame₁⟩
    · have removed := holds₁.removeFrom member k
      have framed := frame₁.trans (frame_removeFrom c₁ a k)
      rw [result] at removed framed
      exact ⟨removed, framed⟩
  · exact ⟨holds₁, frame₁⟩

end Holds

/-! ## Consistency along runs -/

/-- The wheel `c` and its records `acts` at `now`: in step, with a positive quantum, an epoch not
after `now`, and the first bucket not yet scanned at most one past the last bucket due and no
later than the largest ticket. -/
structure Consistent (c : Collector) (acts : List Activation) (now : Instant) : Prop where
  holds : Holds c acts []
  positive : 0 < c.quantum.toNanos
  early : c.epoch ≤ now
  bounded : c.nextTicket ≤ c.lastDue now + 1
  room : c.nextTicket ≤ maxTicket

namespace Consistent

variable {acts' : List Activation} {s : Instant}

theorem make (quantum : Duration) (distinct : (acts.map (·.id)).Nodup)
    (unscheduled : ∀ a ∈ acts, a.ticket = none) : Consistent (make quantum now) acts now where
  holds := {
    ids := distinct
    sorted := List.Pairwise.nil
    perm := by
      have none : held acts = [] := by
        refine List.eq_nil_iff_forall_not_mem.mpr fun x member => ?_
        obtain ⟨a, inside, ticket, -⟩ := mem_held.mp member
        rw [unscheduled a inside] at ticket
        cases ticket
      rw [none]
      rfl
    unclaimed := fun a inside scheduled => by simp [unscheduled a inside] at scheduled
    future := fun _ inside => by cases inside }
  positive := by
    unfold Collector.make
    dsimp only
    split
    · decide
    · rename_i long
      have : (Duration.ofMillis 1).toNanos ≤ quantum.toNanos := Nat.le_of_not_lt long
      have : 0 < (Duration.ofMillis 1).toNanos := by decide
      omega
  early := Nat.le_refl now
  bounded := Nat.zero_le _
  room := Nat.zero_le _

theorem later (consistent : Consistent c acts now) (later : now ≤ s) : Consistent c acts s where
  holds := consistent.holds
  positive := consistent.positive
  early := Nat.le_trans consistent.early later
  bounded := Nat.le_trans consistent.bounded (Nat.succ_le_succ (lastDue_mono later))
  room := consistent.room

/-- A trade with a record of a consistent wheel keeps it consistent. -/
theorem retickets (consistent : Consistent c acts now) (member : a ∈ acts)
    (moved : Retickets c a c' b) : Consistent c' (replace acts b) now where
  holds := consistent.holds.retickets (fun _ inside => by cases inside) member
    (fun _ ticket => consistent.holds.ticket_future member ticket) moved
  positive := moved.frame.quantum ▸ consistent.positive
  early := moved.frame.epoch ▸ consistent.early
  bounded := by
    rw [moved.frame.nextTicket, lastDue_congr moved.frame.quantum moved.frame.epoch]
    exact consistent.bounded
  room := moved.frame.nextTicket ▸ consistent.room

end Consistent

end Collector

/-! ## Runs of operations -/

/-- An operation on the wheel and its records: one of the wheel's own, or a change to a record
that leaves its collection slot alone. -/
inductive WheelOp where
  | schedule (id : Nat) (timeout : Duration)
  | cancel (id : Nat)
  | reschedule (id : Nat) (timeout : Duration)
  | scanStale
  | scanAll (age : Duration)
  | edit (b : Activation)

namespace WheelOp

/-- What an operation at `now` makes of the wheel `c` and the records `acts`. An operation on an
id no record has changes nothing, a refused scheduling changes nothing, and so does an edit that
would change a collection slot. -/
def apply (c : Collector) (acts : List Activation) (now : Instant) :
    WheelOp → Except ClockOverflow (Collector × List Activation)
  | .schedule id timeout =>
    match Collector.find? acts id with
    | none => pure (c, acts)
    | some a => (c.schedule a timeout now).map fun
      | .ok placed => (placed.1, Collector.replace acts placed.2)
      | .error _ => (c, acts)
  | .cancel id =>
    match Collector.find? acts id with
    | none => pure (c, acts)
    | some a => pure ((c.cancel a).1, Collector.replace acts (c.cancel a).2.1)
  | .reschedule id timeout =>
    match Collector.find? acts id with
    | none => pure (c, acts)
    | some a => (c.reschedule a timeout now).map fun moved => (moved.1, Collector.replace acts moved.2.1)
  | .scanStale => (c.scanStale acts now).map fun scanned => (scanned.1, scanned.2.1)
  | .scanAll age => pure ((c.scanAll acts age now).1, (c.scanAll acts age now).2.1)
  | .edit b =>
    match Collector.find? acts b.id with
    | none => pure (c, acts)
    | some a =>
      if b.ticket = a.ticket ∧ b.cancelled = a.cancelled then pure (c, Collector.replace acts b)
      else pure (c, acts)

/-- What an operation at `now` that succeeds does to the wheel `c` and the records `acts`: it
changes nothing, or it trades the record of one id with the wheel, or it scans. -/
inductive Applied (c : Collector) (acts : List Activation) (now : Instant) :
    WheelOp → Collector → List Activation → Prop
  | same {op : WheelOp} : Applied c acts now op c acts
  | schedule {id : Nat} {timeout : Duration} {a : Activation} {c' : Collector} {b : Activation} :
      Collector.find? acts id = some a → c.schedule a timeout now = .ok (.ok (c', b)) →
      Applied c acts now (.schedule id timeout) c' (Collector.replace acts b)
  | cancel {id : Nat} {a : Activation} : Collector.find? acts id = some a →
      Applied c acts now (.cancel id) (c.cancel a).1 (Collector.replace acts (c.cancel a).2.1)
  | reschedule {id : Nat} {timeout : Duration} {a : Activation} {c' : Collector} {b : Activation}
      {r : Bool} : Collector.find? acts id = some a → c.reschedule a timeout now = .ok (c', b, r) →
      Applied c acts now (.reschedule id timeout) c' (Collector.replace acts b)
  | scanStale {c' : Collector} {acts' : List Activation} {stale : List Nat} :
      c.scanStale acts now = .ok (c', acts', stale) → Applied c acts now .scanStale c' acts'
  | scanAll {age : Duration} :
      Applied c acts now (.scanAll age) (c.scanAll acts age now).1 (c.scanAll acts age now).2.1
  | edit {b a : Activation} : Collector.find? acts b.id = some a → b.ticket = a.ticket →
      b.cancelled = a.cancelled → Applied c acts now (.edit b) c (Collector.replace acts b)

theorem Applied.of_apply {c c' : Collector} {acts acts' : List Activation} {now : Instant}
    {op : WheelOp} (applied : op.apply c acts now = .ok (c', acts')) : Applied c acts now op c' acts' := by
  cases op with
  | schedule id timeout =>
    simp only [apply] at applied
    rcases found : Collector.find? acts id with _ | a
    · rw [found] at applied
      cases applied
      exact .same
    simp only [found] at applied
    rcases placed : c.schedule a timeout now with _ | (_ | ⟨c₁, b⟩)
    all_goals rw [placed] at applied
    · cases applied
    · cases applied
      exact .same
    · cases applied
      exact .schedule found placed
  | cancel id =>
    simp only [apply] at applied
    rcases found : Collector.find? acts id with _ | a
    · rw [found] at applied
      cases applied
      exact .same
    simp only [found] at applied
    cases applied
    exact .cancel found
  | reschedule id timeout =>
    simp only [apply] at applied
    rcases found : Collector.find? acts id with _ | a
    · rw [found] at applied
      cases applied
      exact .same
    simp only [found] at applied
    rcases moved : c.reschedule a timeout now with _ | ⟨c₁, b, r⟩
    all_goals rw [moved] at applied
    · cases applied
    · cases applied
      exact .reschedule found moved
  | scanStale =>
    simp only [apply] at applied
    rcases scanned : c.scanStale acts now with _ | ⟨c₁, acts₁, stale⟩
    all_goals rw [scanned] at applied
    · cases applied
    cases applied
    exact .scanStale scanned
  | scanAll age =>
    simp only [apply] at applied
    cases applied
    exact .scanAll
  | edit b =>
    simp only [apply] at applied
    rcases found : Collector.find? acts b.id with _ | a
    · rw [found] at applied
      cases applied
      exact .same
    simp only [found] at applied
    split at applied
    · rename_i same
      cases applied
      exact .edit found same.1 same.2
    · cases applied
      exact .same

end WheelOp

/-- Operations applied one after another at times that never go backwards, none of them stopping
the program on a clock overflow. -/
inductive WheelRun : Collector × List Activation → Instant → List WheelOp →
    Collector × List Activation → Instant → Prop
  | nil (st : Collector × List Activation) (t : Instant) : WheelRun st t [] st t
  | step {st st₁ st' : Collector × List Activation} {t s t' : Instant} {op : WheelOp}
      {ops : List WheelOp} :
      t ≤ s → op.apply st.1 st.2 s = .ok st₁ → WheelRun st₁ s ops st' t' →
      WheelRun st t (op :: ops) st' t'

namespace Collector.Consistent

variable {c c' : Collector} {acts acts' : List Activation} {now t t' : Instant}

theorem scanStale (consistent : Consistent c acts now) {stale : List Nat}
    (scanned : c.scanStale acts now = .ok (c', acts', stale)) : Consistent c' acts' now := by
  obtain ⟨holds, quantum, epoch, next, room⟩ :=
    consistent.holds.scanStale consistent.positive consistent.early scanned
  have due : c'.lastDue now = c.lastDue now := by rw [lastDue_congr quantum epoch]
  refine ⟨holds, quantum ▸ consistent.positive, epoch ▸ consistent.early, ?_, ?_⟩
  · rw [due]
    rcases next with same | moved
    · rw [same]
      exact consistent.bounded
    · exact Nat.le_of_eq moved
  · rcases next with same | moved
    · rw [same]
      exact consistent.room
    · rw [moved]
      exact room

theorem apply (consistent : Consistent c acts now) {op : WheelOp}
    (applied : op.apply c acts now = .ok (c', acts')) : Consistent c' acts' now := by
  cases WheelOp.Applied.of_apply applied with
  | same => exact consistent
  | schedule found placed => exact consistent.retickets (find?_mem found).1 (retickets_schedule placed)
  | cancel found => exact consistent.retickets (find?_mem found).1 (retickets_cancel c _)
  | reschedule found moved =>
    have member := (find?_mem found).1
    exact consistent.retickets member
      (retickets_reschedule consistent.holds.sorted (consistent.holds.backs member) moved)
  | scanStale scanned => exact consistent.scanStale scanned
  | @scanAll age =>
    obtain ⟨holds, frame⟩ := consistent.holds.scanAll age now
    refine ⟨holds, frame.quantum ▸ consistent.positive, frame.epoch ▸ consistent.early, ?_,
      frame.nextTicket ▸ consistent.room⟩
    rw [frame.nextTicket, lastDue_congr frame.quantum frame.epoch]
    exact consistent.bounded
  | edit found ticket cancelled =>
    obtain ⟨member, named⟩ := find?_mem found
    exact { consistent with holds := consistent.holds.touch member named.symm ticket cancelled }

theorem run {st st' : Collector × List Activation} {ops : List WheelOp}
    (consistent : Consistent st.1 st.2 t) (walk : WheelRun st t ops st' t') :
    Consistent st'.1 st'.2 t' := by
  induction walk with
  | nil => exact consistent
  | step later applied _ ih => exact ih ((consistent.later later).apply applied)

/-! ## What consistency gives -/

theorem count_eq (consistent : Consistent c acts now) :
    c.count = (acts.filter (·.ticket.isSome)).length := by
  rw [count_eq_length, ← length_held]
  simpa using consistent.holds.perm.length_eq

theorem entry (consistent : Consistent c acts now) {a : Activation} (member : a ∈ acts) {k : Nat}
    (ticket : a.ticket = some k) :
    a.id ∈ (c.bucket? k).getD [] ∧ (∀ k', a.id ∈ (c.bucket? k').getD [] → k' = k) ∧
      a.cancelled = false := by
  have holds := consistent.holds
  have sorted := holds.sorted
  refine ⟨(mem_entries_iff sorted).mp (by simpa using holds.held_entry member ticket), ?_,
    holds.unclaimed a member (by simp [ticket])⟩
  intro k' inside
  -- another entry of the id would be a ticket of another record with the same id
  have entry : (k', a.id) ∈ held acts :=
    holds.perm.subset (List.mem_append_left _ ((mem_entries_iff sorted).mpr inside))
  obtain ⟨b, other, ticket', named⟩ := mem_held.mp entry
  rw [eq_of_id_eq holds.ids other member named, ticket] at ticket'
  exact (Option.some.inj ticket').symm

theorem owner (consistent : Consistent c acts now) {k id : Nat}
    (inside : id ∈ (c.bucket? k).getD []) :
    ∃ a, find? acts id = some a ∧ a.ticket = some k := by
  have holds := consistent.holds
  have entry : (k, id) ∈ held acts :=
    holds.perm.subset (List.mem_append_left _ ((mem_entries_iff holds.sorted).mpr inside))
  obtain ⟨a, member, ticket, named⟩ := mem_held.mp entry
  have named : a.id = id := named
  refine ⟨a, ?_, ticket⟩
  rw [← named]
  exact find?_of_mem holds.ids member

theorem lastDue_lt_firstBucketAfter {timeout : Duration} (positive : 0 < c.quantum.toNanos)
    (long : c.quantum ≤ timeout) (early : c.epoch ≤ now) :
    c.lastDue now < c.firstBucketAfter timeout now := by
  have long : c.quantum.toNanos ≤ timeout.toNanos := long
  unfold lastDue firstBucketAfter
  -- at least a quantum later, the first bucket due is past every bucket due now
  calc (now - c.epoch) / c.quantum.toNanos
      _ < (now - c.epoch) / c.quantum.toNanos + 1 := Nat.lt_succ_self _
      _ = (now - c.epoch + c.quantum.toNanos) / c.quantum.toNanos :=
        (Nat.add_div_right _ positive).symm
      _ ≤ (now + timeout.toNanos - c.epoch + c.quantum.toNanos - 1) / c.quantum.toNanos :=
        Nat.div_le_div_right (by unfold Instant at *; omega)

theorem not_expired (consistent : Consistent c acts t) (later : t ≤ now) {timeout : Duration}
    (long : c.quantum ≤ timeout) : c.ticketFor c.nextTicket timeout now ≠ .ok (.error .ticketExpired) := by
  have current := consistent.later later
  rcases fits : now.add? timeout with _ | due
  · rw [ticketFor_beyond (Nat.not_lt.mpr long) fits]
    intro refused
    cases refused
  rw [ticketFor_fits (Nat.not_lt.mpr long) fits, if_neg]
  · intro refused
    cases refused
  -- the bucket asked for is past every bucket due, and the wheel has not scanned past those
  have past := lastDue_lt_firstBucketAfter current.positive long current.early
  have bounded := current.bounded
  have room := current.room
  show ¬min (c.firstBucketAfter timeout now) maxTicket < c.nextTicket
  omega

theorem removeFrom_taken (consistent : Consistent c acts now) {a : Activation} (member : a ∈ acts)
    {k : Nat} (ticket : a.ticket = some k) : (c.removeFrom a k).2.2 = true := by
  rw [removeFrom_backed consistent.holds.sorted (consistent.holds.backs member) ticket
    (consistent.holds.ticket_future member ticket)]

end Collector.Consistent

/-- The wheel stays consistent with its records. Start from a fresh wheel and records with
distinct ids that hold no ticket, and run the wheel's operations (scheduling, cancelling,
rescheduling, both scans) and any changes to records that leave their collection slots alone,
in any order, at times that never go backwards. After every operation:

- the count is the number of records holding a ticket;
- a record holding ticket `k` is an unclaimed entry of bucket `k` and of no other bucket;
- every entry of bucket `k` is the id of a record holding ticket `k`;
- every bucket and every ticket is at or after the first bucket not yet scanned, and that is at
  most one past the last bucket due.

So a ticket at least a quantum ahead is never refused as expired, and taking a record out of the
bucket its ticket names never fails. -/
theorem wheel_consistent {quantum : Duration} {t₀ t : Instant} {acts₀ acts : List Activation}
    {ops : List WheelOp} {c : Collector}
    (distinct : (acts₀.map (·.id)).Nodup) (unscheduled : ∀ a ∈ acts₀, a.ticket = none)
    (run : WheelRun (Collector.make quantum t₀, acts₀) t₀ ops (c, acts) t) :
    c.count = (acts.filter (·.ticket.isSome)).length ∧
    (∀ a ∈ acts, ∀ k, a.ticket = some k →
      a.id ∈ (c.bucket? k).getD [] ∧ (∀ k', a.id ∈ (c.bucket? k').getD [] → k' = k) ∧
        a.cancelled = false) ∧
    (∀ k id, id ∈ (c.bucket? k).getD [] → ∃ a, Collector.find? acts id = some a ∧ a.ticket = some k) ∧
    (∀ x ∈ c.buckets, c.nextTicket ≤ x.1) ∧
    (∀ a ∈ acts, ∀ k, a.ticket = some k → c.nextTicket ≤ k) ∧
    c.nextTicket ≤ c.lastDue t + 1 ∧
    (∀ now, t ≤ now → ∀ timeout, c.quantum ≤ timeout →
      c.ticketFor c.nextTicket timeout now ≠ .ok (.error .ticketExpired)) ∧
    (∀ a ∈ acts, ∀ k, a.ticket = some k → (c.removeFrom a k).2.2 = true) := by
  have consistent : Collector.Consistent c acts t :=
    (Collector.Consistent.make quantum distinct unscheduled).run run
  exact ⟨consistent.count_eq, fun a member k ticket => consistent.entry member ticket,
    fun k id inside => consistent.owner inside, consistent.holds.future,
    fun a member k ticket => consistent.holds.ticket_future member ticket, consistent.bounded,
    fun now later timeout long => consistent.not_expired later long,
    fun a member k ticket => consistent.removeFrom_taken member ticket⟩

/-- A collection a minute ahead scheduled for `idleRecord` on a fresh wheel of ten-second quanta,
then a scan at thirty seconds, before its bucket is due: the wheel is consistent after both. -/
theorem idle_record_wheel_consistent :
    ∃ c acts, ([idleRecord].map (·.id)).Nodup ∧ (∀ a ∈ [idleRecord], a.ticket = none) ∧
      WheelRun (Collector.make (.ofSecs 10) 0, [idleRecord]) 0
        [.schedule idleRecord.id (.ofSecs 60), .scanStale] (c, acts) (Duration.ofSecs 30).toNanos ∧
      (c.count = (acts.filter (·.ticket.isSome)).length ∧
      (∀ a ∈ acts, ∀ k, a.ticket = some k →
        a.id ∈ (c.bucket? k).getD [] ∧ (∀ k', a.id ∈ (c.bucket? k').getD [] → k' = k) ∧
          a.cancelled = false) ∧
      (∀ k id, id ∈ (c.bucket? k).getD [] →
        ∃ a, Collector.find? acts id = some a ∧ a.ticket = some k) ∧
      (∀ x ∈ c.buckets, c.nextTicket ≤ x.1) ∧
      (∀ a ∈ acts, ∀ k, a.ticket = some k → c.nextTicket ≤ k) ∧
      c.nextTicket ≤ c.lastDue (Duration.ofSecs 30).toNanos + 1 ∧
      (∀ now, (Duration.ofSecs 30).toNanos ≤ now → ∀ timeout, c.quantum ≤ timeout →
        c.ticketFor c.nextTicket timeout now ≠ .ok (.error .ticketExpired)) ∧
      (∀ a ∈ acts, ∀ k, a.ticket = some k → (c.removeFrom a k).2.2 = true)) := by
  obtain ⟨c, acts, run⟩ : ∃ c acts, WheelRun (Collector.make (.ofSecs 10) 0, [idleRecord]) 0
      [.schedule idleRecord.id (.ofSecs 60), .scanStale] (c, acts) (Duration.ofSecs 30).toNanos :=
    ⟨_, _, .step (Nat.le_refl 0) rfl (.step (by decide) rfl (.nil _ _))⟩
  have distinct : ([idleRecord].map (·.id)).Nodup := List.nodup_singleton _
  have unscheduled : ∀ a ∈ [idleRecord], a.ticket = none := fun a inside => by
    rw [List.mem_singleton.mp inside]
    rfl
  exact ⟨c, acts, distinct, unscheduled, run, wheel_consistent distinct unscheduled run⟩

end ActorSilo
