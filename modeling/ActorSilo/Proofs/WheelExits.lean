import ActorSilo.Proofs.WheelConsistency

/-! # How a record enters and leaves the wheel

A record enters the wheel only through a scheduling that succeeds, and leaves through a cancel
that answers true, a rescheduling that fails, a scan finding it stale, or the forced scan taking
it. The periodic scan has one more way out that answers nothing: a record it reaches that is not
a stale candidate, rescheduled with an age limit the wheel refuses, leaves with no ticket
(`Collector.Leaves.dropped`). One record is followed through a scan by `Collector.Follows`.

**Main results:** `Collector.Consistent.scanStale_exits`, `Collector.scanAll_exits`, and
`wheel_exits` over every run of the wheel's operations from a fresh wheel.
-/

namespace ActorSilo

namespace Collector

variable {c c' c₀ : Collector} {acts acts' : List Activation} {a b : Activation} {k : Nat}
  {now : Instant} {timeout : Duration}

/-! ## The record of an id -/

theorem find?_replace_of_ne {x : Nat} (other : b.id ≠ x) : find? (replace acts b) x = find? acts x := by
  induction acts with
  | nil => rfl
  | cons y ys ih =>
    simp only [find?, replace] at ih ⊢
    rw [List.map_cons, List.find?_cons, List.find?_cons, ih]
    by_cases same : y.id = b.id
    · have gone : (b.id == x) = false := beq_eq_false_iff_ne.mpr other
      simp only [same, beq_self_eq_true, if_true, gone]
    · simp [same]

theorem find?_replace (ids : (acts.map (·.id)).Nodup) (member : a ∈ acts) (b : Activation) :
    find? (replace acts b) a.id = some (if b.id = a.id then b else a) := by
  by_cases same : b.id = a.id
  · rw [if_pos same, ← same]
    refine find?_of_mem (by rw [replace_ids]; exact ids) (List.mem_map.mpr ⟨a, member, ?_⟩)
    simp [same]
  · rw [if_neg same, find?_replace_of_ne same]
    exact find?_of_mem ids member

theorem find?_replace_cases (ids : (acts.map (·.id)).Nodup) (member : a ∈ acts) {a' b' : Activation}
    (inside : a' ∈ acts) (renamed : b'.id = a'.id) :
    find? (replace acts b') a.id = some a ∨ a' = a ∧ find? (replace acts b') a.id = some b' := by
  rw [find?_replace ids member]
  by_cases mine : b'.id = a.id
  · rw [if_pos mine]
    exact .inr ⟨eq_of_id_eq ids inside member (renamed.symm.trans mine), rfl⟩
  · rw [if_neg mine]
    exact .inl rfl

/-! ## What the periodic scan leaves of a record -/

/-- Record `a` holds the ticket of a bucket due at `now`: the periodic scan at `now` reaches it. -/
def Reaches (c : Collector) (now : Instant) (a : Activation) : Prop :=
  ∃ k, a.ticket = some k ∧ k ≤ c.lastDue now

/-- What the periodic scan at `now` leaves of a record it reaches. A system record, which the
wheel never schedules, is claimed and out of the wheel; any other is left as `reached` says. -/
def afterScan (c : Collector) (now : Instant) (a : Activation) : Activation :=
  if a.isExempt then a.claim else c.reached now a

theorem afterScan_of_stale (candidate : a.isCandidate now = true) (idle : a.isStale now = true) :
    c.afterScan now a = a.claim := by
  unfold afterScan reached
  simp [candidate, idle]

theorem afterScan_kept (kept : (a.isCandidate now && a.isStale now) = false)
    (ordinary : a.isExempt = false) (long : c.quantum ≤ a.ageLimit) :
    c.afterScan now a = { a with cancelled := false, ticket := some (c.bucketAfter a.ageLimit now) } := by
  unfold afterScan reached
  rw [if_neg (Bool.eq_false_iff.mp ordinary), if_neg (Bool.eq_false_iff.mp kept), if_pos long]

theorem afterScan_dropped (kept : (a.isCandidate now && a.isStale now) = false)
    (refused : a.ageLimit < c.quantum ∨ a.isExempt = true) : c.afterScan now a = a.claim := by
  unfold afterScan
  split
  · rfl
  rename_i ordinary
  unfold reached
  rw [if_neg (Bool.eq_false_iff.mp kept), if_neg]
  rcases refused with short | system
  · exact Nat.not_le.mpr short
  · exact absurd system ordinary

theorem afterScan_ticket (positive : 0 < c.quantum.toNanos) (early : c.epoch ≤ now)
    (room : c.lastDue now < maxTicket) {t : Nat} (ticket : (c.afterScan now a).ticket = some t) :
    c.lastDue now < t := by
  unfold afterScan reached at ticket
  split at ticket
  · cases ticket
  split at ticket
  · cases ticket
  split at ticket
  · rename_i long
    cases ticket
    exact lastDue_lt_bucketAfter positive long early room
  · cases ticket

theorem schedule_ordinary {r : Collector × Activation}
    (placed : c.schedule a timeout now = .ok (.ok r)) : a.isExempt = false := by
  unfold schedule at placed
  split at placed
  · cases placed
  · exact Bool.eq_false_iff.mpr ‹_›

theorem afterScan_of_kept (quantum : c.quantum = c₀.quantum) (epoch : c.epoch = c₀.epoch)
    (positive : 0 < c₀.quantum.toNanos) (kept : (a.isCandidate now && a.isStale now) = false)
    (placed : c.schedule a.claim a.ageLimit now = .ok (.ok (c', b))) : c₀.afterScan now a = b := by
  have ordinary : a.isExempt = false := (schedule_ordinary placed : a.claim.isExempt = false)
  rcases schedule_ticket placed with ⟨zero, same⟩ | ⟨long, same⟩
  · -- a zero limit is below a quantum: the wheel hands the claimed record back as it was
    have none := Duration.toNanos_of_isZero zero
    rw [afterScan_dropped kept (.inl (show a.ageLimit.toNanos < c₀.quantum.toNanos by omega)), same]
  · rw [afterScan_kept kept ordinary (quantum ▸ long), same, bucketAfter_congr quantum epoch]
    rfl

theorem afterScan_of_refused (quantum : c.quantum = c₀.quantum) (epoch : c.epoch = c₀.epoch)
    (positive : 0 < c₀.quantum.toNanos) (early : c₀.epoch ≤ now) (room : c₀.lastDue now < maxTicket)
    (fresh : c.nextTicket ≤ c₀.lastDue now + 1) (kept : (a.isCandidate now && a.isStale now) = false)
    {e : CollectorError} (refused : c.schedule a.claim a.ageLimit now = .ok (.error e)) :
    c₀.afterScan now a = a.claim := by
  by_cases long : c₀.quantum ≤ a.ageLimit
  · rcases schedule_refused refused with system | short | held | expired
    · exact afterScan_dropped kept (.inr system)
    · exact absurd (quantum ▸ long) (Nat.not_le.mpr short)
    · simp at held
    · rw [bucketAfter_congr quantum epoch] at expired
      have := lastDue_lt_bucketAfter positive long early room
      omega
  · exact afterScan_dropped kept (.inl (Nat.lt_of_not_le long))

/-! ## One record through the periodic scan -/

/-- Where the periodic scan at `now` of the wheel `c` stands with record `a`, in a state of the
wheel, the records and the ids found. Either it has not visited the record, which is as it was
and not found. Or it has visited it once, as it reaches it, and left it as `afterScan` says,
found once exactly when it was a stale candidate. -/
def Follows (c : Collector) (now : Instant) (a : Activation)
    (st : Collector × List Activation × List Nat) : Prop :=
  find? st.2.1 a.id = some a ∧ st.2.2.count a.id = 0 ∨
    c.Reaches now a ∧ find? st.2.1 a.id = some (c.afterScan now a) ∧
      st.2.2.count a.id = if a.isCandidate now && a.isStale now then 1 else 0

namespace Follows

variable {pending : List (Nat × Nat)} {ks : List Nat} {stale stale' : List Nat}
  {st st' : Collector × List Activation × List Nat}

theorem frame (follows : Follows c₀ now a (c, acts, stale)) (other : b.id ≠ a.id)
    (counted : stale'.count a.id = stale.count a.id) : Follows c₀ now a (c', replace acts b, stale') := by
  simp only [Follows, find?_replace_of_ne other, counted]
  exact follows

section Visits

variable (positive : 0 < c₀.quantum.toNanos) (early : c₀.epoch ≤ now)
  (room : c₀.lastDue now < maxTicket)

include positive early room

theorem visit {id : Nat} (scan : Scanning c₀ now (k + 1) ((k, id) :: pending) ks (c, acts, stale))
    (visited : Visit k now (c, acts, stale) id st') (follows : Follows c₀ now a (c, acts, stale)) :
    Follows c₀ now a st' := by
  have due : k ≤ c₀.lastDue now := by have := scan.bounded; omega
  have ids : (acts.map (·.id)).Nodup := scan.holds.ids
  -- a record holding the bucket's ticket has not been visited yet: a visit moves it past
  have first : ∀ {a'}, find? acts a.id = some a' → a'.ticket = some k →
      a' = a ∧ stale.count a.id = 0 := by
    intro a' found ticket
    rcases follows with ⟨read, none⟩ | ⟨-, read, -⟩
    · rw [read] at found
      cases found
      exact ⟨rfl, none⟩
    · rw [read] at found
      cases found
      have := afterScan_ticket positive early room ticket
      omega
  cases visited with
  | skip unmarked => exact follows
  | take found ticket unclaimed candidate idle =>
    rename_i a'
    obtain ⟨member, named⟩ := find?_mem found
    by_cases same : id = a.id
    · subst same
      obtain ⟨rfl, none⟩ := first found ticket
      simp only [Activation.claim_isCandidate, Activation.claim_isStale] at candidate idle
      refine .inr ⟨⟨k, ticket, due⟩, ?_, ?_⟩
      · rw [afterScan_of_stale candidate idle, find?_replace ids member]
        simp
      · simp [List.count_append, none, candidate, idle]
    · exact follows.frame (by rw [Activation.claim_id, named]; exact same)
        (by simp [List.count_append, same])
  | keep found ticket unclaimed kept placed =>
    rename_i a' c₁ b'
    obtain ⟨member, named⟩ := find?_mem found
    have renamed : b'.id = id := (retickets_schedule placed).id.trans named
    by_cases same : id = a.id
    · subst same
      obtain ⟨rfl, none⟩ := first found ticket
      simp only [Activation.claim_isCandidate, Activation.claim_isStale] at kept
      refine .inr ⟨⟨k, ticket, due⟩, ?_, ?_⟩
      · rw [afterScan_of_kept scan.quantum scan.epoch positive kept placed, find?_replace ids member,
          if_pos renamed]
      · simp [none, kept]
    · exact follows.frame (by rw [renamed]; exact same) rfl
  | drop found ticket unclaimed kept placed =>
    rename_i a' e
    obtain ⟨member, named⟩ := find?_mem found
    by_cases same : id = a.id
    · subst same
      obtain ⟨rfl, none⟩ := first found ticket
      simp only [Activation.claim_isCandidate, Activation.claim_isStale] at kept
      have fresh : c.nextTicket ≤ c₀.lastDue now + 1 := scan.next ▸ scan.bounded
      refine .inr ⟨⟨k, ticket, due⟩, ?_, ?_⟩
      · rw [afterScan_of_refused scan.quantum scan.epoch positive early room fresh kept placed,
          find?_replace ids member]
        simp
      · simp [none, kept]
    · exact follows.frame (by rw [Activation.claim_id, named]; exact same) rfl

theorem visits {ids : List Nat} (walk : Visits k now st ids st')
    (scan : Scanning c₀ now (k + 1) (ids.map (k, ·)) ks st) (follows : Follows c₀ now a st) :
    Follows c₀ now a st' :=
  (Walks.invariant (fun st ids => Scanning c₀ now (k + 1) (ids.map (k, ·)) ks st ∧ Follows c₀ now a st)
    (fun ⟨_, _, _⟩ _ _ _ visited ⟨scan, follows⟩ =>
      ⟨scan.visit positive early room visited, follows.visit positive early room scan visited⟩)
    walk ⟨scan, follows⟩).2

theorem sweeps {n : Nat} (walk : Sweeps now st ks st') (scan : Scanning c₀ now n [] ks st)
    (follows : Follows c₀ now a st) : ∃ n', Scanning c₀ now n' [] [] st' ∧ Follows c₀ now a st' := by
  refine Walks.invariant (fun st ks => ∃ n, Scanning c₀ now n [] ks st ∧ Follows c₀ now a st) ?_ walk
    ⟨n, scan, follows⟩
  rintro ⟨c, acts, stale⟩ k ks r scanned ⟨n, scan, follows⟩
  have entered := scan.enter
  exact ⟨k + 1, entered.visits positive early room scanned,
    visits positive early room scanned entered follows⟩

end Visits

theorem finish {n : Nat} (scan : Scanning c₀ now n [] [] st) (follows : Follows c₀ now a st)
    (reaches : c₀.Reaches now a) :
    find? st.2.1 a.id = some (c₀.afterScan now a) ∧
      st.2.2.count a.id = if a.isCandidate now && a.isStale now then 1 else 0 := by
  rcases follows with ⟨read, -⟩ | ⟨-, visited⟩
  · exfalso
    obtain ⟨k, ticket, due⟩ := reaches
    have entry : (k, a.id) ∈ st.1.entries := by
      simpa using scan.holds.held_entry (find?_mem read).1 ticket
    obtain ⟨bucket, inside, key⟩ := mem_entries entry
    have key : bucket.1 = k := key
    rcases scan.keys bucket inside with ahead | late
    · cases ahead
    · omega
  · exact visited

end Follows

/-- The records of a scan's state have the ids of `acts`, and every id the scan found is one of
them. -/
def Named (acts : List Activation) (st : Collector × List Activation × List Nat) : Prop :=
  st.2.1.map (·.id) = acts.map (·.id) ∧ ∀ x ∈ st.2.2, x ∈ acts.map (·.id)

namespace Named

variable {acts₀ : List Activation} {stale : List Nat} {st st' : Collector × List Activation × List Nat}

theorem replaced (named : Named acts₀ (c, acts, stale)) (b : Activation) :
    Named acts₀ (c', replace acts b, stale) :=
  ⟨by rw [replace_ids]; exact named.1, named.2⟩

theorem taken (named : Named acts₀ (c, acts, stale)) {id : Nat} {a' : Activation}
    (found : find? acts id = some a') (b : Activation) :
    Named acts₀ (c', replace acts b, stale ++ [id]) := by
  obtain ⟨member, same⟩ := find?_mem found
  have kept : Named acts₀ (c', replace acts b, stale) := named.replaced b
  refine ⟨kept.1, fun x inside => ?_⟩
  rcases List.mem_append.mp inside with old | new
  · exact named.2 x old
  · rw [List.mem_singleton.mp new, ← named.1, ← same]
    exact List.mem_map_of_mem member

theorem visit {id : Nat} (visited : Visit k now st id st') (named : Named acts₀ st) : Named acts₀ st' := by
  cases visited with
  | skip => exact named
  | take found => exact named.taken found _
  | keep => exact named.replaced _
  | drop => exact named.replaced _

theorem sweeps {ks : List Nat} (walk : Sweeps now st ks st') (named : Named acts₀ st) : Named acts₀ st' := by
  refine Walks.invariant (fun st _ => Named acts₀ st) ?_ walk named
  rintro ⟨c, acts, stale⟩ k ks r scanned named
  exact Walks.invariant (fun st _ => Named acts₀ st) (fun _ _ _ _ visited named => named.visit visited)
    scanned named

end Named

theorem scanStale_named {stale : List Nat} (scanned : c.scanStale acts now = .ok (c', acts', stale)) :
    ∀ x ∈ stale, x ∈ acts.map (·.id) := by
  obtain ⟨-, ⟨-, quiet⟩ | ⟨-, st, walk, result⟩⟩ := scanStale_sweeps scanned
  · simp only [Prod.mk.injEq] at quiet
    obtain ⟨-, -, rfl⟩ := quiet
    intro x inside
    cases inside
  · simp only [Prod.mk.injEq] at result
    obtain ⟨-, -, rfl⟩ := result
    exact (Named.sweeps walk ⟨rfl, fun x inside => by cases inside⟩).2

namespace Consistent

theorem scanStale_follows {stale : List Nat} (consistent : Consistent c acts now) (member : a ∈ acts)
    (scanned : c.scanStale acts now = .ok (c', acts', stale)) :
    (c.Reaches now a → find? acts' a.id = some (c.afterScan now a) ∧
        stale.count a.id = if a.isCandidate now && a.isStale now then 1 else 0) ∧
      (¬c.Reaches now a → find? acts' a.id = some a ∧ stale.count a.id = 0) := by
  have holds := consistent.holds
  have start : Follows c now a (c, acts, []) := .inl ⟨find?_of_mem holds.ids member, rfl⟩
  obtain ⟨room, ⟨below, quiet⟩ | ⟨due, st, walk, result⟩⟩ := scanStale_sweeps scanned
  · -- nothing is due, and no record holds a ticket the scan reaches
    simp only [Prod.mk.injEq] at quiet
    obtain ⟨rfl, rfl, rfl⟩ := quiet
    refine ⟨fun ⟨k, ticket, due⟩ => ?_, fun _ => ⟨find?_of_mem holds.ids member, rfl⟩⟩
    have := holds.ticket_future member ticket
    omega
  · obtain ⟨n, scan, follows⟩ :=
      Follows.sweeps consistent.positive consistent.early room walk (Scanning.start holds due) start
    simp only [Prod.mk.injEq] at result
    obtain ⟨rfl, rfl, rfl⟩ := result
    refine ⟨follows.finish scan, fun unreached => ?_⟩
    rcases follows with before | ⟨reaches, -⟩
    · exact before
    · exact absurd reaches unreached

/-- The periodic scan finds each record at most once, exactly the stale candidates it reaches,
and leaves them claimed. Every other record it reaches goes back to the bucket its age limit
gives, unless the wheel refuses that limit, and then it is claimed all the same. -/
theorem scanStale_exits {stale : List Nat} (consistent : Consistent c acts now)
    (scanned : c.scanStale acts now = .ok (c', acts', stale)) :
    stale.Nodup ∧ ∀ a ∈ acts,
      (a.id ∈ stale ↔ c.Reaches now a ∧ a.isCandidate now = true ∧ a.isStale now = true) ∧
      (a.id ∈ stale → find? acts' a.id = some a.claim) ∧
      (c.Reaches now a → a.id ∉ stale → c.quantum ≤ a.ageLimit → a.isExempt = false →
        find? acts' a.id =
          some { a with cancelled := false, ticket := some (c.bucketAfter a.ageLimit now) }) ∧
      (c.Reaches now a → a.id ∉ stale → a.ageLimit < c.quantum ∨ a.isExempt = true →
        find? acts' a.id = some a.claim) ∧
      (¬c.Reaches now a → find? acts' a.id = some a) := by
  refine ⟨List.nodup_iff_count_le_one.mpr fun x => ?_, fun a member => ?_⟩
  · -- every id found is a record's, and the scan finds a record at most once
    by_cases inside : x ∈ stale
    · obtain ⟨a, member, rfl⟩ := List.mem_map.mp (scanStale_named scanned x inside)
      obtain ⟨reached, unreached⟩ := consistent.scanStale_follows member scanned
      by_cases reaches : c.Reaches now a
      · rw [(reached reaches).2]
        split <;> omega
      · rw [(unreached reaches).2]
        omega
    · rw [List.count_eq_zero.mpr inside]
      omega
  obtain ⟨reached, unreached⟩ := consistent.scanStale_follows member scanned
  by_cases reaches : c.Reaches now a
  · obtain ⟨read, counted⟩ := reached reaches
    by_cases found : (a.isCandidate now && a.isStale now) = true
    · rw [if_pos found] at counted
      have inside : a.id ∈ stale := List.count_pos_iff.mp (by omega)
      simp only [Bool.and_eq_true] at found
      refine ⟨iff_of_true inside ⟨reaches, found⟩, fun _ => ?_, fun _ unfound => absurd inside unfound,
        fun _ unfound => absurd inside unfound, fun unreached => absurd reaches unreached⟩
      rw [read, afterScan_of_stale found.1 found.2]
    · rw [if_neg found] at counted
      have unfound : a.id ∉ stale := List.count_eq_zero.mp counted
      have kept := Bool.eq_false_iff.mpr found
      refine ⟨iff_of_false unfound fun ⟨_, candidate, idle⟩ => found (by simp [candidate, idle]),
        fun inside => absurd inside unfound, fun _ _ long ordinary => ?_, fun _ _ refused => ?_,
        fun unreached => absurd reaches unreached⟩
      · rw [read, afterScan_kept kept ordinary long]
      · rw [read, afterScan_dropped kept refused]
  · obtain ⟨read, counted⟩ := unreached reaches
    have unfound : a.id ∉ stale := List.count_eq_zero.mp counted
    exact ⟨iff_of_false unfound fun ⟨reached, _⟩ => reaches reached, fun inside => absurd inside unfound,
      fun reached => absurd reached reaches, fun reached => absurd reached reaches, fun _ => read⟩

end Consistent

/-! ## One record through the forced scan -/

theorem removeFrom_claims {t : Nat} (removed : (c.removeFrom a t).2.2 = true) :
    (c.removeFrom a t).2.1 = a.claim ∧ a.ticket = some t := by
  unfold removeFrom at removed ⊢
  rcases found : c.bucket? t with _ | ids
  · simp [found] at removed
  simp only [found] at removed ⊢
  split at removed
  · rename_i claims
    rw [if_pos claims]
    simp only [Bool.and_eq_true, beq_iff_eq] at claims
    exact ⟨rfl, claims.1.1⟩
  · cases removed

/-- Where the forced scan for `age` at `now` stands with record `a`, in a state of the wheel, the
records and the ids taken. Either it has not taken the record, which is as it was. Or it has
taken it once: the record held a ticket, was a candidate idle for `age`, and is claimed. -/
def Takes (age : Duration) (now : Instant) (a : Activation)
    (st : Collector × List Activation × List Nat) : Prop :=
  find? st.2.1 a.id = some a ∧ st.2.2.count a.id = 0 ∨
    a.ticket.isSome ∧ a.isCandidate now = true ∧ age ≤ a.idleness now ∧
      find? st.2.1 a.id = some a.claim ∧ st.2.2.count a.id = 1

theorem Takes.frame {age : Duration} {taken taken' : List Nat}
    (takes : Takes age now a (c, acts, taken)) (other : b.id ≠ a.id)
    (counted : taken'.count a.id = taken.count a.id) : Takes age now a (c', replace acts b, taken') := by
  simp only [Takes, find?_replace_of_ne other, counted]
  exact takes

theorem scanAll_takes (ids : (acts.map (·.id)).Nodup) (age : Duration) (now : Instant) :
    Named acts (c.scanAll acts age now) ∧ ∀ a ∈ acts, Takes age now a (c.scanAll acts age now) := by
  unfold Collector.scanAll
  refine foldl_invariant (fun st => Named acts st ∧ ∀ a ∈ acts, Takes age now a st) ?_ _ _
    ⟨⟨rfl, fun x inside => by cases inside⟩, fun a member => .inl ⟨find?_of_mem ids member, rfl⟩⟩
  rintro st ⟨k, bucket⟩ kept
  refine foldl_invariant (fun st => Named acts st ∧ ∀ a ∈ acts, Takes age now a st) ?_ bucket st kept
  rintro ⟨c₁, acts₁, taken⟩ id ⟨named, takes⟩
  dsimp only
  rcases found : find? acts₁ id with _ | a'
  · exact ⟨named, takes⟩
  dsimp only
  obtain ⟨inside, same⟩ := find?_mem found
  split
  · rename_i wanted
    rcases result : c₁.removeFrom a' k with ⟨c₂, a₂, _ | _⟩
    · exact ⟨named, takes⟩
    obtain ⟨claimed, ticket⟩ := removeFrom_claims (by rw [result])
    rw [result] at claimed
    dsimp only at claimed
    subst claimed
    show Named acts (c₂, replace acts₁ a'.claim, taken ++ [id]) ∧
      ∀ a ∈ acts, Takes age now a (c₂, replace acts₁ a'.claim, taken ++ [id])
    have distinct : (acts₁.map (·.id)).Nodup := named.1 ▸ ids
    refine ⟨named.taken found _, fun a member => ?_⟩
    by_cases mine : id = a.id
    · subst mine
      -- the record taken is `a` itself, not yet taken: a claimed record holds no ticket to take
      rcases takes a member with ⟨read, none⟩ | ⟨-, -, -, read, -⟩
      · rw [read] at found
        cases found
        simp only [Bool.and_eq_true, decide_eq_true_eq] at wanted
        refine .inr ⟨by simp [ticket], wanted.1, wanted.2, ?_, by simp [List.count_append, none]⟩
        rw [find?_replace distinct (find?_mem read).1]
        simp
      · rw [read] at found
        cases found
        cases ticket
    · exact (takes a member).frame (by rw [Activation.claim_id, same]; exact mine)
        (by simp [List.count_append, mine])
  · exact ⟨named, takes⟩

/-- The forced scan takes each record at most once, only one holding a ticket, and leaves it
claimed; every other record stays as it was. -/
theorem scanAll_exits (ids : (acts.map (·.id)).Nodup) (age : Duration) (now : Instant) :
    (c.scanAll acts age now).2.2.Nodup ∧ ∀ a ∈ acts,
      (a.id ∈ (c.scanAll acts age now).2.2 → a.ticket.isSome = true ∧
        find? (c.scanAll acts age now).2.1 a.id = some a.claim) ∧
      (a.id ∉ (c.scanAll acts age now).2.2 → find? (c.scanAll acts age now).2.1 a.id = some a) := by
  obtain ⟨named, takes⟩ : Named acts (c.scanAll acts age now) ∧
      ∀ a ∈ acts, Takes age now a (c.scanAll acts age now) := scanAll_takes ids age now
  refine ⟨List.nodup_iff_count_le_one.mpr fun x => ?_, fun a member => ?_⟩
  · by_cases inside : x ∈ (c.scanAll acts age now).2.2
    · obtain ⟨a, member, rfl⟩ := List.mem_map.mp (named.2 x inside)
      rcases takes a member with ⟨-, none⟩ | ⟨-, -, -, -, once⟩ <;> omega
    · rw [List.count_eq_zero.mpr inside]
      omega
  rcases takes a member with ⟨read, none⟩ | ⟨held, -, -, read, once⟩
  · exact ⟨fun inside => absurd (List.count_pos_iff.mpr inside) (by omega), fun _ => read⟩
  · exact ⟨fun _ => ⟨held, read⟩, fun outside => absurd (List.count_pos_iff.mp (by omega)) outside⟩

/-! ## One operation -/

theorem cancel_record : (c.cancel a).2.1 = if (c.cancel a).2.2 then a.claim else a := by
  unfold cancel
  split
  · simp
  split
  · simp
  rename_i t _
  split
  · simp
  rcases removed : (c.removeFrom a t).2.2 with _ | _
  · rw [removeFrom_kept removed]
    simp
  · rw [if_pos rfl, (removeFrom_claims removed).1]

theorem reschedule_free (free : a.ticket = none) {r : Bool}
    (moved : c.reschedule a timeout now = .ok (c', b, r)) : b.ticket = none := by
  unfold reschedule at moved
  split at moved
  · cases moved
    exact free
  simp only [free] at moved
  cases moved
  rfl

/-- What an operation at `now` on the wheel `c` and the records `acts` makes of record `a`: the
record `b` it leaves in `a`'s place. -/
inductive Outcome (c : Collector) (acts : List Activation) (now : Instant) (a : Activation) :
    WheelOp → Activation → Prop
  | stays {op : WheelOp} : Outcome c acts now a op a
  | schedule {timeout : Duration} {c' : Collector} {b : Activation} :
      c.schedule a timeout now = .ok (.ok (c', b)) → Outcome c acts now a (.schedule a.id timeout) b
  | cancel : Outcome c acts now a (.cancel a.id) (c.cancel a).2.1
  | reschedule {timeout : Duration} {c' : Collector} {b : Activation} {r : Bool} :
      c.reschedule a timeout now = .ok (c', b, r) → Outcome c acts now a (.reschedule a.id timeout) b
  | scanStale {c' : Collector} {acts' : List Activation} {stale : List Nat} :
      c.scanStale acts now = .ok (c', acts', stale) → c.Reaches now a →
      stale.count a.id = (if a.isCandidate now && a.isStale now then 1 else 0) →
      Outcome c acts now a .scanStale (c.afterScan now a)
  | scanAll {age : Duration} : a.id ∈ (c.scanAll acts age now).2.2 → a.ticket.isSome = true →
      Outcome c acts now a (.scanAll age) a.claim
  | edit {b : Activation} : b.id = a.id → b.ticket = a.ticket → Outcome c acts now a (.edit b) b

/-- The ways record `a` can leave the wheel `c` under an operation at `now`: a cancel that
answers true, a rescheduling that fails, the periodic scan finding it, the periodic scan dropping
it unfound because the wheel refuses its age limit, or the forced scan taking it. -/
inductive Leaves (c : Collector) (acts : List Activation) (now : Instant) (a : Activation) :
    WheelOp → Prop
  | cancel : (c.cancel a).2.2 = true → Leaves c acts now a (.cancel a.id)
  | reschedule {timeout : Duration} {c' : Collector} {b : Activation} :
      c.reschedule a timeout now = .ok (c', b, false) → Leaves c acts now a (.reschedule a.id timeout)
  | found {c' : Collector} {acts' : List Activation} {stale : List Nat} :
      c.scanStale acts now = .ok (c', acts', stale) → a.id ∈ stale → Leaves c acts now a .scanStale
  | dropped {c' : Collector} {acts' : List Activation} {stale : List Nat} :
      c.scanStale acts now = .ok (c', acts', stale) → a.id ∉ stale →
      a.ageLimit < c.quantum ∨ a.isExempt = true → Leaves c acts now a .scanStale
  | taken {age : Duration} : a.id ∈ (c.scanAll acts age now).2.2 → Leaves c acts now a (.scanAll age)

namespace Outcome

variable {op : WheelOp}

theorem gains (moved : Outcome c acts now a op b) (free : a.ticket = none)
    (held : b.ticket.isSome = true) : ∃ timeout, op = .schedule a.id timeout := by
  cases moved with
  | stays => simp [free] at held
  | schedule => exact ⟨_, rfl⟩
  | cancel =>
    rw [cancel_record] at held
    split at held <;> simp [free] at held
  | reschedule moved => simp [reschedule_free free moved] at held
  | scanStale _ reaches =>
    obtain ⟨k, ticket, -⟩ := reaches
    simp [free] at ticket
  | scanAll _ taken => simp [free] at taken
  | edit _ same => simp [same, free] at held

theorem leaves (moved : Outcome c acts now a op b) (held : a.ticket.isSome = true)
    (gone : b.ticket = none) : Leaves c acts now a op := by
  cases moved with
  | stays => simp [gone] at held
  | schedule placed =>
    -- the wheel refuses a record that holds a ticket, or gives it one
    rcases schedule_ticket placed with ⟨-, rfl⟩ | ⟨-, rfl⟩
    · simp [gone] at held
    · cases gone
  | cancel =>
    rw [cancel_record] at gone
    split at gone
    · exact .cancel ‹_›
    · simp [gone] at held
  | @reschedule timeout c' b r moved =>
    cases r
    · exact .reschedule moved
    · rw [reschedule_scheduled moved] at gone
      cases gone
  | @scanStale c' acts' stale scanned _ counted =>
    by_cases found : (a.isCandidate now && a.isStale now) = true
    · rw [if_pos found] at counted
      exact .found scanned (List.count_pos_iff.mp (by omega))
    rw [if_neg found] at counted
    refine .dropped scanned (List.count_eq_zero.mp counted) ?_
    -- kept by the scan, the record is scheduled again unless the wheel refuses
    by_cases system : a.isExempt = true
    · exact .inr system
    by_cases long : c.quantum ≤ a.ageLimit
    · rw [afterScan_kept (Bool.eq_false_iff.mpr found) (Bool.eq_false_iff.mpr system) long] at gone
      cases gone
    · exact .inl (Nat.lt_of_not_le long)
  | scanAll taken => exact .taken taken
  | edit _ same =>
    rw [same] at gone
    simp [gone] at held

end Outcome

namespace Consistent

theorem outcome (consistent : Consistent c acts now) (member : a ∈ acts) {op : WheelOp}
    (applied : op.apply c acts now = .ok (c', acts')) :
    ∃ b, find? acts' a.id = some b ∧ Outcome c acts now a op b := by
  have ids := consistent.holds.ids
  -- an operation on the record of one id replaces that record, and `a` only if it is that record
  cases WheelOp.Applied.of_apply applied with
  | same => exact ⟨a, find?_of_mem ids member, .stays⟩
  | schedule found placed =>
    obtain ⟨inside, rfl⟩ := find?_mem found
    rcases find?_replace_cases ids member inside (retickets_schedule placed).id with
      read | ⟨rfl, read⟩
    · exact ⟨a, read, .stays⟩
    · exact ⟨_, read, .schedule placed⟩
  | cancel found =>
    obtain ⟨inside, rfl⟩ := find?_mem found
    rcases find?_replace_cases ids member inside (retickets_cancel c _).id with read | ⟨rfl, read⟩
    · exact ⟨a, read, .stays⟩
    · exact ⟨_, read, .cancel⟩
  | reschedule found moved =>
    obtain ⟨inside, rfl⟩ := find?_mem found
    have traded := retickets_reschedule consistent.holds.sorted (consistent.holds.backs inside) moved
    rcases find?_replace_cases ids member inside traded.id with read | ⟨rfl, read⟩
    · exact ⟨a, read, .stays⟩
    · exact ⟨_, read, .reschedule moved⟩
  | scanStale scanned =>
    obtain ⟨reached, unreached⟩ := consistent.scanStale_follows member scanned
    by_cases reaches : c.Reaches now a
    · obtain ⟨read, counted⟩ := reached reaches
      exact ⟨_, read, .scanStale scanned reaches counted⟩
    · exact ⟨a, (unreached reaches).1, .stays⟩
  | @scanAll age =>
    rcases (scanAll_takes ids age now).2 a member with ⟨read, -⟩ | ⟨held, -, -, read, counted⟩
    · exact ⟨a, read, .stays⟩
    · exact ⟨_, read, .scanAll (List.count_pos_iff.mp (by omega)) held⟩
  | edit found ticket _ =>
    obtain ⟨inside, named⟩ := find?_mem found
    rcases find?_replace_cases ids member inside named.symm with read | ⟨rfl, read⟩
    · exact ⟨a, read, .stays⟩
    · exact ⟨_, read, .edit named.symm ticket⟩

theorem gains (consistent : Consistent c acts now) {op : WheelOp}
    (applied : op.apply c acts now = .ok (c', acts')) (member : a ∈ acts)
    (found : find? acts' a.id = some b) (free : a.ticket = none) (held : b.ticket.isSome = true) :
    ∃ timeout, op = .schedule a.id timeout := by
  obtain ⟨b', read, moved⟩ := consistent.outcome member applied
  rw [found] at read
  cases read
  exact moved.gains free held

theorem leaves (consistent : Consistent c acts now) {op : WheelOp}
    (applied : op.apply c acts now = .ok (c', acts')) (member : a ∈ acts)
    (found : find? acts' a.id = some b) (held : a.ticket.isSome = true) (gone : b.ticket = none) :
    Leaves c acts now a op := by
  obtain ⟨b', read, moved⟩ := consistent.outcome member applied
  rw [found] at read
  cases read
  exact moved.leaves held gone

end Consistent

/-- How the records `acts` enter and leave the wheel `c` at `now`. -/
structure Accounts (c : Collector) (acts : List Activation) (now : Instant) : Prop where
  /-- A record gains a ticket only by its own scheduling. -/
  gains : ∀ (op : WheelOp) c' acts', op.apply c acts now = .ok (c', acts') →
    ∀ a ∈ acts, ∀ b, find? acts' a.id = some b → a.ticket = none → b.ticket.isSome = true →
      ∃ timeout, op = .schedule a.id timeout
  /-- A record loses its ticket only through one of the ways out. -/
  leaves : ∀ (op : WheelOp) c' acts', op.apply c acts now = .ok (c', acts') →
    ∀ a ∈ acts, ∀ b, find? acts' a.id = some b → a.ticket.isSome = true → b.ticket = none →
      c.Leaves acts now a op
  /-- The periodic scan finds each record at most once: exactly the stale candidates it reaches,
  which it leaves claimed. Every other record it reaches goes back to the bucket its age limit
  gives, unless the wheel refuses that limit, and then it is claimed all the same. -/
  scanStale : ∀ c' acts' stale, c.scanStale acts now = .ok (c', acts', stale) → stale.Nodup ∧
    ∀ a ∈ acts,
      (a.id ∈ stale ↔ c.Reaches now a ∧ a.isCandidate now = true ∧ a.isStale now = true) ∧
      (a.id ∈ stale → find? acts' a.id = some a.claim) ∧
      (c.Reaches now a → a.id ∉ stale → c.quantum ≤ a.ageLimit → a.isExempt = false →
        find? acts' a.id =
          some { a with cancelled := false, ticket := some (c.bucketAfter a.ageLimit now) }) ∧
      (c.Reaches now a → a.id ∉ stale → a.ageLimit < c.quantum ∨ a.isExempt = true →
        find? acts' a.id = some a.claim) ∧
      (¬c.Reaches now a → find? acts' a.id = some a)
  /-- The forced scan takes each record at most once, only one holding a ticket, and leaves it
  claimed; every other record stays as it was. -/
  scanAll : ∀ age, (c.scanAll acts age now).2.2.Nodup ∧ ∀ a ∈ acts,
    (a.id ∈ (c.scanAll acts age now).2.2 → a.ticket.isSome = true ∧
      find? (c.scanAll acts age now).2.1 a.id = some a.claim) ∧
    (a.id ∉ (c.scanAll acts age now).2.2 → find? (c.scanAll acts age now).2.1 a.id = some a)

theorem Consistent.accounts (consistent : Consistent c acts now) : Accounts c acts now where
  gains _ _ _ applied _ member _ found := consistent.gains applied member found
  leaves _ _ _ applied _ member _ found := consistent.leaves applied member found
  scanStale _ _ _ scanned := consistent.scanStale_exits scanned
  scanAll age := scanAll_exits consistent.holds.ids age now

end Collector

/-- How records enter and leave the wheel. Start from a fresh wheel and records with distinct ids
that hold no ticket, and run the wheel's operations in any order, at times that never go
backwards. Then at any later moment, for the next operation:

- a record gains a ticket only by its own scheduling;
- it loses its ticket only through a cancel that answers true, a rescheduling that fails, the
  periodic scan finding it, the forced scan taking it, or the periodic scan dropping it unfound
  when its age limit is below a quantum or it is a system record;
- each scan finds a record at most once, and leaves it claimed. The periodic scan finds exactly
  the stale candidates it reaches, and puts every other record it reaches with an age limit of at
  least a quantum back in the bucket that limit gives.

So between two schedulings a record leaves the wheel at most once, and a record found by a scan
is found again only after it is scheduled again. -/
theorem wheel_exits {quantum : Duration} {t₀ t now : Instant} {acts₀ acts : List Activation}
    {ops : List WheelOp} {c : Collector}
    (distinct : (acts₀.map (·.id)).Nodup) (unscheduled : ∀ a ∈ acts₀, a.ticket = none)
    (run : WheelRun (Collector.make quantum t₀, acts₀) t₀ ops (c, acts) t) (later : t ≤ now) :
    c.Accounts acts now :=
  (((Collector.Consistent.make quantum distinct unscheduled).run run).later later).accounts

/-- `briefRecord`, with its one-second age limit, scheduled ten seconds on a fresh wheel of
ten-second quanta and then kept alive for a minute: the wheel the scan at ten seconds starts
from. -/
theorem brief_record_wheel_exits :
    ∃ c acts, ([briefRecord].map (·.id)).Nodup ∧ (∀ a ∈ [briefRecord], a.ticket = none) ∧
      WheelRun (Collector.make (.ofSecs 10) 0, [briefRecord]) 0
        [.schedule briefRecord.id (.ofSecs 10),
          .edit ({ briefRecord with ticket := some 1 }.delayDeactivation (.ofSecs 60) 0)] (c, acts) 0 ∧
      0 ≤ (Duration.ofSecs 10).toNanos ∧ c.Accounts acts (Duration.ofSecs 10).toNanos := by
  obtain ⟨c, acts, run⟩ : ∃ c acts, WheelRun (Collector.make (.ofSecs 10) 0, [briefRecord]) 0
      [.schedule briefRecord.id (.ofSecs 10),
        .edit ({ briefRecord with ticket := some 1 }.delayDeactivation (.ofSecs 60) 0)] (c, acts) 0 :=
    ⟨_, _, .step (Nat.le_refl 0) rfl (.step (Nat.le_refl 0) rfl (.nil _ _))⟩
  have distinct : ([briefRecord].map (·.id)).Nodup := List.nodup_singleton _
  have unscheduled : ∀ a ∈ [briefRecord], a.ticket = none := fun a inside => by
    rw [List.mem_singleton.mp inside]
    rfl
  exact ⟨c, acts, distinct, unscheduled, run, Nat.zero_le _,
    wheel_exits distinct unscheduled run (Nat.zero_le _)⟩

end ActorSilo
