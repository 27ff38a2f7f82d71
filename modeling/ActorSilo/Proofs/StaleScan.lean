import ActorSilo.Proofs.WheelScans

/-! # What the periodic scan does to the records of a world

The periodic scan hands the wheel the newest record of every id and takes the due buckets in
turn. A record of its id whose ticket is due is visited exactly once: claimed, found when it is a
stale candidate, otherwise scheduled again (`World.Scanned`); every other record is left alone.
The scan is followed with the invariant `World.Sweeping` between two visits.

**Main result:** `World.scanStale_swept`.
-/

namespace ActorSilo

theorem Duration.toNanos_ofNanos (n : Nat) : (Duration.ofNanos n).toNanos = n :=
  Nat.div_add_mod n nanosPerSec

theorem Duration.toNanos_of_isZero {d : Duration} (zero : d.isZero = true) : d.toNanos = 0 := by
  simp only [Duration.isZero, Bool.and_eq_true, beq_iff_eq] at zero
  simp [Duration.toNanos, zero.1, zero.2]

namespace Activation

@[simp] theorem claim_isCandidate (a : Activation) (now : Instant) :
    a.claim.isCandidate now = a.isCandidate now := rfl

@[simp] theorem claim_isStale (a : Activation) (now : Instant) :
    a.claim.isStale now = a.isStale now := rfl

@[simp] theorem claim_isExempt (a : Activation) : a.claim.isExempt = a.isExempt := rfl

end Activation

namespace Collector

variable {c c' : Collector} {a b : Activation} {timeout : Duration} {now : Instant}

theorem lastDue_congr (quantum : c'.quantum = c.quantum) (epoch : c'.epoch = c.epoch) :
    c'.lastDue = c.lastDue := by
  funext now
  simp only [lastDue, quantum, epoch]

theorem bucketAfter_congr (quantum : c'.quantum = c.quantum) (epoch : c'.epoch = c.epoch) :
    c'.bucketAfter = c.bucketAfter := by
  funext timeout now
  simp only [bucketAfter, firstBucketAfter, quantum, epoch]

theorem schedule_buckets (placed : c.schedule a timeout now = .ok (.ok (c', b))) :
    ∀ x ∈ c'.buckets, x ∈ c.buckets ∨ c.quantum ≤ timeout ∧ x.1 = c.bucketAfter timeout now := by
  unfold schedule at placed
  split at placed
  · cases placed
  split at placed
  · cases placed
    exact fun x member => .inl member
  split at placed
  · cases placed
  rcases ticket : c.ticketFor c.nextTicket timeout now with _ | (_ | t)
  all_goals rw [ticket] at placed
  · cases placed
  · cases placed
  · cases placed
    obtain ⟨long, named, -⟩ := ticketFor_ok ticket
    intro x member
    rcases mem_setBucket member with key | old
    · exact .inr ⟨long, key.trans named⟩
    · exact .inl old

theorem schedule_moves (placed : c.schedule a timeout now = .ok (.ok (c', b)))
    (long : c.quantum ≤ timeout) (positive : 0 < c.quantum.toNanos) :
    b = { a with cancelled := false, ticket := some (c.bucketAfter timeout now) } := by
  rcases schedule_ticket placed with ⟨zero, -⟩ | ⟨-, moved⟩
  · -- a timeout of a quantum is not zero
    have none : timeout.toNanos = 0 := Duration.toNanos_of_isZero zero
    have long : c.quantum.toNanos ≤ timeout.toNanos := long
    omega
  · exact moved

end Collector

namespace World

open Collector

variable {γ : Type} (w : World γ) (now : Instant)

/-! ## What the scan does to one record -/

/-- Record `a` holds a ticket of a bucket due at `now` and not yet scanned: from the first
bucket not yet scanned up to the last one due. -/
def Due (a : Activation) : Prop :=
  ∃ k, a.ticket = some k ∧ w.collector.nextTicket ≤ k ∧ k ≤ w.collector.lastDue now

/-- Record `a` holds a ticket from the first bucket not yet scanned up to, and not including,
bucket `n`. -/
def DueBefore (n : Nat) (a : Activation) : Prop :=
  ∃ k, a.ticket = some k ∧ w.collector.nextTicket ≤ k ∧ k < n

theorem DueBefore.mono {w : World γ} {n n' : Nat} {a : Activation} (due : w.DueBefore n a)
    (later : n ≤ n') : w.DueBefore n' a := by
  obtain ⟨k, ticket, fresh, below⟩ := due
  exact ⟨k, ticket, fresh, by omega⟩

theorem DueBefore.due {w : World γ} {n : Nat} {a : Activation} (due : w.DueBefore n a)
    (bounded : n ≤ w.collector.lastDue now + 1) : w.Due now a := by
  obtain ⟨k, ticket, fresh, below⟩ := due
  exact ⟨k, ticket, fresh, by omega⟩

/-- The scan passed record `a` on its way to bucket `n`: the record holds a ticket of an
earlier bucket, or of bucket `n - 1` whose ids still to visit are `pending`, its own not
among them. -/
def Passed (n : Nat) (pending : List Nat) (a : Activation) : Prop :=
  ∃ k, a.ticket = some k ∧ w.collector.nextTicket ≤ k ∧ k < n ∧ (k + 1 = n → a.id ∉ pending)

/-- What the periodic scan at `now` on the wheel `c` does to a record `a` it visits, leaving
`b`, with `stale` the ids found: it claims the ticket and finds the record when it is a stale
candidate; otherwise it schedules it again with its age limit, which gives the bucket that far
from `now` unless the wheel refuses (a system record, or a limit below a quantum). -/
structure Scanned (c : Collector) (now : Instant) (stale : List Nat) (a b : Activation) : Prop where
  found : a.isCandidate now = true → a.isStale now = true → a.id ∈ stale ∧ b = a.claim
  kept : b = a.claim ∨ c.quantum ≤ a.ageLimit ∧
    b = { a with cancelled := false, ticket := some (c.bucketAfter a.ageLimit now) }
  again : (a.isCandidate now && a.isStale now) = false → c.quantum ≤ a.ageLimit →
    a.isExempt = false →
      b = { a with cancelled := false, ticket := some (c.bucketAfter a.ageLimit now) }

namespace Scanned

variable {w now} {c : Collector} {stale stale' : List Nat} {a b : Activation}

theorem reticketed (scanned : Scanned c now stale a b) : a.Reticketed b := by
  rcases scanned.kept with same | ⟨-, same⟩ <;> (subst same; rfl)

theorem mono (scanned : Scanned c now stale a b) (more : ∀ id ∈ stale, id ∈ stale') :
    Scanned c now stale' a b where
  found candidate idle := by
    obtain ⟨member, same⟩ := scanned.found candidate idle
    exact ⟨more _ member, same⟩
  kept := scanned.kept
  again := scanned.again

theorem ticket_after (scanned : Scanned c now stale a b) (positive : 0 < c.quantum.toNanos)
    (early : c.epoch ≤ now) (room : c.lastDue now < maxTicket) {t : Nat}
    (ticket : b.ticket = some t) : c.lastDue now < t := by
  rcases scanned.kept with same | ⟨long, same⟩
  · subst same
    cases ticket
  · subst same
    cases ticket
    exact lastDue_lt_bucketAfter positive long early room

end Scanned

/-! ## The scan between two visits -/

/-- The state `st` of the scan of the newest records of `w` at `now`, on its way to bucket `n`
with the ids `pending` of bucket `n - 1` still to visit and the due keys `ks` still ahead: its
records are the newest of a world `u` whose records are those of `w`, each changed only where
the scan visited it, and the wheel of the state backs them. -/
structure Sweeping (n : Nat) (pending ks : List Nat) (st : Collector × List Activation × List Nat)
    (u : World γ) : Prop where
  newest : st.2.1 = u.newest
  slots : u.registeredSlots = w.registeredSlots
  size : u.records.size = w.records.size
  related : Related Activation.Reticketed w u
  backed : ({ u with collector := st.1 } : World γ).WheelBacked
  quantum : st.1.quantum = w.collector.quantum
  epoch : st.1.epoch = w.collector.epoch
  next : st.1.nextTicket = n
  started : w.collector.nextTicket ≤ n
  bounded : n ≤ w.collector.lastDue now + 1
  keys : ∀ x ∈ st.1.buckets, x.1 ≤ w.collector.lastDue now → x.1 ∈ ks
  sorted : ks.Pairwise (· < ·)
  ahead : ∀ k ∈ ks, n ≤ k ∧ k ≤ w.collector.lastDue now
  changed : ∀ j a, w.record? j = some a → u.record? j ≠ some a →
    w.slotOf? a.id = some j ∧ w.DueBefore n a ∧
      ∃ b, u.record? j = some b ∧ Scanned w.collector now st.2.2 a b
  passed : ∀ j a, w.slotOf? a.id = some j → w.record? j = some a → w.Passed n pending a →
    ∃ b, u.record? j = some b ∧ Scanned w.collector now st.2.2 a b
  found : ∀ id ∈ st.2.2, ∃ j a, w.slotOf? id = some j ∧ w.record? j = some a ∧ a.id = id ∧
    w.DueBefore n a ∧ a.isCandidate now = true ∧ a.isStale now = true ∧ u.record? j = some a.claim

namespace Sweeping

variable {w now} {n : Nat} {pending ks : List Nat} {st : Collector × List Activation × List Nat}
  {u : World γ}

theorem slotOf (sweep : w.Sweeping now n pending ks st u) : u.slotOf? = w.slotOf? :=
  slotOf?_congr (sweep.related.mono fun moved => moved.advances) sweep.slots sweep.size

theorem slotsHold (sweep : w.Sweeping now n pending ks st u) (holds : w.SlotsHold) : u.SlotsHold :=
  holds.advance (Advances.of_related (sweep.related.mono fun moved => moved.advances))
    fun _ member => sweep.slots ▸ member

theorem find? (sweep : w.Sweeping now n pending ks st u) (holds : w.SlotsHold) {id : Nat}
    {a : Activation} (found : Collector.find? st.2.1 id = some a) :
    ∃ j, w.slotOf? id = some j ∧ u.record? j = some a := by
  rw [sweep.newest, find?_newest (sweep.slotsHold holds), sweep.slotOf] at found
  rcases slotted : w.slotOf? id with _ | j
  · rw [slotted] at found
    cases found
  · rw [slotted] at found
    exact ⟨j, rfl, found⟩

theorem unchanged (sweep : w.Sweeping now n pending ks st u) {j : Nat} {a : Activation}
    (found : w.record? j = some a) (ahead : ¬w.DueBefore n a) : u.record? j = some a := by
  by_contra differs
  exact ahead (sweep.changed j a found differs).2.1

theorem current (sweep : w.Sweeping now n pending ks st u) (positive : 0 < w.collector.quantum.toNanos)
    (early : w.collector.epoch ≤ now) (room : w.collector.lastDue now < maxTicket) {j k : Nat}
    {a b : Activation} (found : w.record? j = some a) (read : u.record? j = some b)
    (ticket : b.ticket = some k) (due : k ≤ w.collector.lastDue now) : b = a := by
  by_contra differs
  obtain ⟨-, -, b', read', scanned⟩ := sweep.changed j a found
    (by rw [read]; exact fun same => differs (Option.some.inj same))
  rw [read] at read'
  cases read'
  have := scanned.ticket_after positive early room ticket
  omega

theorem entry (sweep : w.Sweeping now n pending ks st u) {j k : Nat} {a : Activation}
    (read : u.record? j = some a) (ticket : a.ticket = some k) (later : n ≤ k) :
    (k, a.id) ∈ st.1.entries := by
  have read : ({ u with collector := st.1 } : World γ).record? j = some a := read
  exact (sweep.backed.backs read k ticket (by rw [sweep.next]; exact later)).2

variable {k id : Nat} {rest : List Nat} {c : Collector} {acts : List Activation} {stale : List Nat}

theorem replace (sweep : w.Sweeping now (k + 1) (id :: rest) ks (c, acts, stale) u)
    (holds : w.SlotsHold) {j : Nat} {a b : Activation} {c' : Collector} {stale' : List Nat}
    (slotted : w.slotOf? id = some j) (found : w.record? j = some a)
    (current : u.record? j = some a) (named : a.id = id) (ticket : a.ticket = some k)
    (fresh : w.collector.nextTicket ≤ k) (traded : Retickets c a c' b)
    (scanned : Scanned w.collector now stale' a b) (more : ∀ x ∈ stale, x ∈ stale')
    (grown : ∀ x ∈ stale', x ∈ stale ∨
      x = id ∧ a.isCandidate now = true ∧ a.isStale now = true ∧ b = a.claim)
    (keys : ∀ x ∈ c'.buckets, x ∈ c.buckets ∨ w.collector.lastDue now < x.1) :
    w.Sweeping now (k + 1) rest ks (c', Collector.replace acts b, stale') (u.putRecord j b) where
  newest := by
    have newest : acts = u.newest := sweep.newest
    show Collector.replace acts b = (u.putRecord j b).newest
    rw [newest_putRecord (sweep.slotsHold holds) (by rw [sweep.slotOf, named]; exact slotted)
      current traded.reticketed, newest]
  slots := sweep.slots
  size := by simp [putRecord, sweep.size]
  related := sweep.related.putRecord j found traded.reticketed
  backed := by
    have current : ({ u with collector := c } : World γ).record? j = some a := current
    exact sweep.backed.retickets current traded
  quantum := traded.frame.quantum.trans sweep.quantum
  epoch := traded.frame.epoch.trans sweep.epoch
  next := traded.frame.nextTicket.trans sweep.next
  started := sweep.started
  bounded := sweep.bounded
  keys x member due := by
    rcases keys x member with old | later
    · exact sweep.keys x old due
    · omega
  sorted := sweep.sorted
  ahead := sweep.ahead
  changed j' a' found' differs := by
    by_cases here : j = j'
    · subst here
      rw [found] at found'
      cases found'
      exact ⟨named ▸ slotted, ⟨k, ticket, fresh, Nat.lt_succ_self k⟩, b,
        record?_putRecord_of_found current b, scanned⟩
    · rw [record?_putRecord_ne u b here] at differs ⊢
      obtain ⟨slotted', due', b', read', scanned'⟩ := sweep.changed j' a' found' differs
      exact ⟨slotted', due', b', read', scanned'.mono more⟩
  passed j' a' slotted' found' passed' := by
    by_cases here : j = j'
    · subst here
      rw [found] at found'
      cases found'
      exact ⟨b, record?_putRecord_of_found current b, scanned⟩
    rw [record?_putRecord_ne u b here]
    -- another slot holds another id, so it was passed before this visit too
    have other : a'.id ≠ id := by
      rintro same
      rw [same, slotted] at slotted'
      exact here (Option.some.inj slotted')
    obtain ⟨k', ticket', fresh', below, edge⟩ := passed'
    have before : w.Passed (k + 1) (id :: rest) a' := by
      refine ⟨k', ticket', fresh', below, fun last member => ?_⟩
      rcases List.mem_cons.mp member with same | later
      · exact other same
      · exact edge last later
    obtain ⟨b', read', scanned'⟩ := sweep.passed j' a' slotted' found' before
    exact ⟨b', read', scanned'.mono more⟩
  found x member := by
    rcases grown x member with old | ⟨same, candidate, idle, claimed⟩
    · obtain ⟨j', a', slotted', found', named', due', candidate', idle', read'⟩ := sweep.found x old
      -- a slot whose record was found holds no ticket any more
      have other : j ≠ j' := by
        rintro rfl
        rw [current] at read'
        cases read'
        simp at ticket
      exact ⟨j', a', slotted', found', named', due', candidate', idle',
        by rw [record?_putRecord_ne u b other]; exact read'⟩
    · subst same
      exact ⟨j, a, slotted, found, named, ⟨k, ticket, fresh, Nat.lt_succ_self k⟩, candidate, idle,
        by rw [record?_putRecord_of_found current b, claimed]⟩

theorem target (sweep : w.Sweeping now (k + 1) (id :: rest) ks (c, acts, stale) u)
    (holds : w.SlotsHold) (positive : 0 < w.collector.quantum.toNanos)
    (early : w.collector.epoch ≤ now) (room : w.collector.lastDue now < maxTicket)
    (due : k ≤ w.collector.lastDue now) {a : Activation} (found : Collector.find? acts id = some a)
    (ticket : a.ticket = some k) :
    ∃ j, w.slotOf? id = some j ∧ w.record? j = some a ∧ u.record? j = some a ∧ a.id = id := by
  obtain ⟨j, slotted, read⟩ := sweep.find? holds found
  obtain ⟨a', found', -⟩ := sweep.related.found_left read
  have same : a = a' := sweep.current positive early room found' read ticket due
  subst same
  unfold Collector.find? at found
  have named := List.find?_some found
  simp only [beq_iff_eq] at named
  exact ⟨j, slotted, found', read, named⟩

/-- The record of the bucket being visited, claimed, leaves the wheel as it is. -/
theorem clears (sweep : w.Sweeping now (k + 1) (id :: rest) ks (c, acts, stale) u) {a : Activation}
    (ticket : a.ticket = some k) : Retickets c a c a.claim :=
  retickets_clear (fun k' held => by rw [ticket] at held; cases held; rw [sweep.next]; omega) true

theorem skip (sweep : w.Sweeping now (k + 1) (id :: rest) ks (c, acts, stale) u)
    (holds : w.SlotsHold)
    (unmarked : ∀ a, Collector.find? acts id = some a → a.ticket = some k → a.cancelled = true) :
    w.Sweeping now (k + 1) rest ks (c, acts, stale) u :=
  { sweep with
    passed := fun j a slotted found passed => by
      by_cases before : w.Passed (k + 1) (id :: rest) a
      · exact sweep.passed j a slotted found before
      obtain ⟨k', ticket, fresh, below, edge⟩ := passed
      -- only the record of this id in this bucket can have been passed by this visit alone
      have last : k' + 1 = k + 1 ∧ a.id = id := by
        by_contra other
        refine before ⟨k', ticket, fresh, below, fun last member => ?_⟩
        rcases List.mem_cons.mp member with same | later
        · exact other ⟨last, same⟩
        · exact edge last later
      obtain ⟨last, named⟩ := last
      have same : k' = k := by omega
      subst same
      have moved : u.record? j ≠ some a := by
        intro read
        have newest : acts = u.newest := sweep.newest
        have seen : Collector.find? acts id = some a := by
          rw [newest, find?_newest (sweep.slotsHold holds), sweep.slotOf, ← named, slotted]
          exact read
        have claimed := unmarked a seen ticket
        have read : ({ u with collector := c } : World γ).record? j = some a := read
        have unclaimed := sweep.backed.unclaimed j a read (by simp [ticket])
        rw [claimed] at unclaimed
        cases unclaimed
      obtain ⟨-, -, b, read, scanned⟩ := sweep.changed j a found moved
      exact ⟨b, read, scanned⟩ }

theorem visit (sweep : w.Sweeping now (k + 1) (id :: rest) ks st u) (holds : w.SlotsHold)
    (positive : 0 < w.collector.quantum.toNanos) (early : w.collector.epoch ≤ now)
    (room : w.collector.lastDue now < maxTicket) (fresh : w.collector.nextTicket ≤ k)
    (due : k ≤ w.collector.lastDue now) {st' : Collector × List Activation × List Nat}
    (visited : Visit k now st id st') : ∃ u', w.Sweeping now (k + 1) rest ks st' u' := by
  have later : ∀ {t}, w.collector.quantum ≤ t → w.collector.lastDue now < w.collector.bucketAfter t now :=
    fun long => lastDue_lt_bucketAfter positive long early room
  cases visited with
  | skip unmarked => exact ⟨u, sweep.skip holds unmarked⟩
  | take found ticket unclaimed candidate idle =>
    rename_i c acts stale a
    obtain ⟨j, slotted, found', read, named⟩ := sweep.target holds positive early room due found ticket
    have cleared := sweep.clears ticket
    refine ⟨_, sweep.replace holds slotted found' read named ticket fresh cleared ?_
      (fun x member => List.mem_append_left _ member) ?_ fun x member => .inl member⟩
    · refine ⟨fun _ _ => ⟨by rw [named]; simp, rfl⟩, .inl rfl, fun kept => ?_⟩
      simp only [Activation.claim_isCandidate, Activation.claim_isStale] at candidate idle
      simp [candidate, idle] at kept
    · intro x member
      rcases List.mem_append.mp member with old | new
      · exact .inl old
      · exact .inr ⟨List.mem_singleton.mp new, candidate, idle, rfl⟩
  | keep found ticket unclaimed kept placed =>
    rename_i c acts stale a c' b
    obtain ⟨j, slotted, found', read, named⟩ := sweep.target holds positive early room due found ticket
    have cleared := sweep.clears ticket
    have quantum : c.quantum = w.collector.quantum := sweep.quantum
    have moved := bucketAfter_congr quantum sweep.epoch
    refine ⟨_, sweep.replace holds slotted found' read named ticket fresh
      (cleared.trans (retickets_schedule placed)) ?_ (fun x member => member)
      (fun x member => .inl member) fun x member => ?_⟩
    · refine ⟨fun candidate idle => by simp [candidate, idle] at kept, ?_, fun _ long _ => ?_⟩
      · rcases schedule_ticket placed with ⟨-, same⟩ | ⟨long, same⟩
        · exact .inl same
        · rw [same, moved]
          exact .inr ⟨quantum ▸ long, rfl⟩
      · rw [schedule_moves placed (quantum ▸ long) (quantum ▸ positive), moved]
        rfl
    · rcases schedule_buckets placed x member with old | ⟨long, key⟩
      · exact .inl old
      · rw [key, moved]
        exact .inr (later (quantum ▸ long))
  | drop found ticket unclaimed kept placed =>
    rename_i c acts stale a e
    obtain ⟨j, slotted, found', read, named⟩ := sweep.target holds positive early room due found ticket
    have cleared := sweep.clears ticket
    have quantum : c.quantum = w.collector.quantum := sweep.quantum
    refine ⟨_, sweep.replace holds slotted found' read named ticket fresh cleared ?_
      (fun x member => member) (fun x member => .inl member) fun x member => .inl member⟩
    refine ⟨fun candidate idle => by simp [candidate, idle] at kept, .inl rfl,
      fun _ long exempt => ?_⟩
    -- the wheel refuses only what cannot be: a limit of a quantum fits a bucket not yet scanned
    exfalso
    rcases schedule_refused placed with system | short | held | expired
    · simp [exempt] at system
    · exact absurd (quantum ▸ long) (Nat.not_le.mpr short)
    · simp at held
    · rw [bucketAfter_congr quantum sweep.epoch] at expired
      have := later long
      have next : c.nextTicket = k + 1 := sweep.next
      omega

theorem enter (sweep : w.Sweeping now n [] (k :: ks) (c, acts, stale) u) :
    w.Sweeping now (k + 1) ((c.bucket? k).getD []) ks
      ({ c.dropBucket k with nextTicket := k + 1 }, acts, stale) u := by
  have first := sweep.ahead k (.head _)
  have later : ∀ k' ∈ ks, k < k' := (List.pairwise_cons.mp sweep.sorted).1
  have next : c.nextTicket = n := sweep.next
  have sorted : Ascending c.buckets := sweep.backed.sorted
  -- a bucket of the wheel other than `k` that is due is still ahead
  have beyond : ∀ x ∈ (c.dropBucket k).buckets, x.1 ≤ w.collector.lastDue now → x.1 ∈ ks := by
    intro x member due
    obtain ⟨old, other⟩ := List.mem_filter.mp member
    rcases List.mem_cons.mp (sweep.keys x old due) with same | ahead
    · simp [same] at other
    · exact ahead
  exact {
    newest := sweep.newest
    slots := sweep.slots
    size := sweep.size
    related := sweep.related
    backed := {
      sorted := dropBucket_ascending sorted
      future := fun x member => by
        by_cases due : x.1 ≤ w.collector.lastDue now
        · exact later x.1 (beyond x member due)
        · show k + 1 ≤ x.1
          omega
      counts := fun x after => by
        have perm : ((c.dropBucket k).entries ++ ((c.bucket? k).getD []).map (k, ·)).Perm
            c.entries := entries_dropBucket sorted
        have dropped : (((c.bucket? k).getD []).map (k, ·)).count x = 0 := by
          refine List.count_eq_zero.mpr fun member => ?_
          obtain ⟨_, _, same⟩ := List.mem_map.mp member
          subst same
          exact absurd after (by show ¬k + 1 ≤ k; omega)
        have counted := sweep.backed.counts x (by rw [next]; exact Nat.le_trans first.1 (Nat.le_of_succ_le after))
        have kept := perm.count_eq x
        rw [List.count_append, dropped, Nat.add_zero] at kept
        show (c.dropBucket k).entries.count x = _
        rw [kept]
        exact counted
      unclaimed := sweep.backed.unclaimed }
    quantum := sweep.quantum
    epoch := sweep.epoch
    next := rfl
    started := by have := sweep.started; omega
    bounded := by omega
    keys := beyond
    sorted := (List.pairwise_cons.mp sweep.sorted).2
    ahead := fun k' member => ⟨later k' member, (sweep.ahead k' (.tail _ member)).2⟩
    changed := fun j a found differs => by
      obtain ⟨slotted, due, rest⟩ := sweep.changed j a found differs
      exact ⟨slotted, due.mono (by omega), rest⟩
    passed := fun j a slotted found passed => by
      obtain ⟨k', ticket, fresh, below, edge⟩ := passed
      by_cases before : k' < n
      · exact sweep.passed j a slotted found ⟨k', ticket, fresh, before, fun _ => List.not_mem_nil⟩
      -- otherwise the record is as in `w`, and the wheel holds its ticket in a bucket ahead
      exfalso
      have read := sweep.unchanged found fun ⟨k'', ticket', _, below'⟩ => by
        rw [ticket] at ticket'
        cases ticket'
        exact before below'
      have entry := sweep.entry read ticket (Nat.le_of_not_lt before)
      obtain ⟨bucket, inside, key⟩ := mem_entries entry
      rcases List.mem_cons.mp (sweep.keys bucket inside (by rw [key]; omega)) with same | ahead
      · have here : k' = k := by
          have key : bucket.1 = k' := key
          omega
        subst here
        exact edge rfl ((mem_entries_iff sorted).mp entry)
      · have := later _ ahead
        omega
    found := fun x member => by
      obtain ⟨j, a, slotted, found, named, due, candidate, idle, read⟩ := sweep.found x member
      exact ⟨j, a, slotted, found, named, due.mono (by omega), candidate, idle, read⟩ }

section Chains

variable (holds : w.SlotsHold) (positive : 0 < w.collector.quantum.toNanos)
  (early : w.collector.epoch ≤ now) (room : w.collector.lastDue now < maxTicket)

include holds positive early room

theorem visits (fresh : w.collector.nextTicket ≤ k) (due : k ≤ w.collector.lastDue now)
    {st st' : Collector × List Activation × List Nat} {ids : List Nat} (walk : Visits k now st ids st')
    (sweep : w.Sweeping now (k + 1) ids ks st u) : ∃ u', w.Sweeping now (k + 1) [] ks st' u' :=
  Walks.invariant (fun st ids => ∃ u, w.Sweeping now (k + 1) ids ks st u)
    (fun _ _ _ _ visited ⟨_, sweep⟩ => sweep.visit holds positive early room fresh due visited)
    walk ⟨u, sweep⟩

theorem sweeps {st st' : Collector × List Activation × List Nat} (walk : Sweeps now st ks st')
    (sweep : w.Sweeping now n [] ks st u) : ∃ n' u', w.Sweeping now n' [] [] st' u' := by
  refine Walks.invariant (fun st ks => ∃ n u, w.Sweeping now n [] ks st u) ?_ walk ⟨n, u, sweep⟩
  rintro ⟨c, acts, stale⟩ k ks r scanned ⟨n, u, sweep⟩
  have first := sweep.ahead k (.head _)
  obtain ⟨u', swept⟩ := sweep.enter.visits holds positive early room
    (Nat.le_trans sweep.started first.1) first.2 scanned
  exact ⟨k + 1, u', swept⟩

end Chains

end Sweeping

/-! ## The whole scan -/

/-- What the periodic scan at `now` made of the world `w`: the wheel `c'`, the records of a
world `u` and the ids `stale` found. The scan stayed within the range of tickets; the wheel is
in step with the records and starts after the last bucket due; every record whose slot holds the
record of its id and whose ticket was due was visited (`Scanned`), every other one is as it was;
and every id found names such a record that was a stale candidate, now claimed. -/
structure Swept (c' : Collector) (u : World γ) (stale : List Nat) : Prop where
  room : w.collector.lastDue now < maxTicket
  slots : u.registeredSlots = w.registeredSlots
  size : u.records.size = w.records.size
  related : Related Activation.Reticketed w u
  backed : ({ u with collector := c' } : World γ).WheelBacked
  quantum : c'.quantum = w.collector.quantum
  epoch : c'.epoch = w.collector.epoch
  next : c'.nextTicket = max w.collector.nextTicket (w.collector.lastDue now + 1)
  records : ∀ j a, w.record? j = some a →
    u.record? j = some a ∧ (w.slotOf? a.id = some j → ¬w.Due now a) ∨
      w.slotOf? a.id = some j ∧ w.Due now a ∧
        ∃ b, u.record? j = some b ∧ Scanned w.collector now stale a b
  found : ∀ id ∈ stale, ∃ j a, w.slotOf? id = some j ∧ w.record? j = some a ∧ a.id = id ∧
    w.Due now a ∧ a.isCandidate now = true ∧ a.isStale now = true ∧ u.record? j = some a.claim

namespace Sweeping

variable {w now} {n : Nat} {u : World γ}

theorem start (backed : w.WheelBacked) (due : w.collector.nextTicket ≤ w.collector.lastDue now) :
    w.Sweeping now w.collector.nextTicket [] (w.collector.dueKeys now) (w.collector, w.newest, []) w where
  newest := rfl
  slots := rfl
  size := rfl
  related := Related.refl Activation.Reticketed.refl w
  backed := backed.of_same rfl rfl
  quantum := rfl
  epoch := rfl
  next := rfl
  started := Nat.le_refl _
  bounded := by omega
  keys x member due' := by
    refine List.mem_filter.mpr ⟨List.mem_map_of_mem member, ?_⟩
    simp [backed.future x member, due']
  sorted := (List.pairwise_map.mpr backed.sorted).filter _
  ahead k member := by
    have := (List.mem_filter.mp member).2
    simp only [Bool.and_eq_true, decide_eq_true_eq] at this
    exact this
  changed j a found differs := absurd found differs
  passed j a _ _ passed := by
    obtain ⟨k, _, fresh, below, _⟩ := passed
    omega
  found x member := by cases member

theorem finish (sweep : w.Sweeping now n [] [] (c, acts, stale) u)
    (positive : 0 < w.collector.quantum.toNanos) (early : w.collector.epoch ≤ now)
    (room : w.collector.lastDue now < maxTicket) :
    w.Swept now { c with nextTicket := w.collector.lastDue now + 1 } u stale := by
  have next : c.nextTicket = n := sweep.next
  have gone : ∀ x ∈ c.buckets, w.collector.lastDue now < x.1 := fun x member =>
    Nat.lt_of_not_le fun due => List.not_mem_nil (sweep.keys x member due)
  have started := sweep.started
  have bounded := sweep.bounded
  exact {
    room := room
    slots := sweep.slots
    size := sweep.size
    related := sweep.related
    backed := {
      sorted := sweep.backed.sorted
      future := gone
      counts := fun x after => by
        have after : w.collector.lastDue now + 1 ≤ x.1 := after
        exact sweep.backed.counts x (by rw [next]; omega)
      unclaimed := sweep.backed.unclaimed }
    quantum := sweep.quantum
    epoch := sweep.epoch
    next := by
      show w.collector.lastDue now + 1 = _
      omega
    records := fun j a found => by
      by_cases moved : u.record? j = some a
      · refine .inl ⟨moved, fun slotted ⟨k, ticket, fresh, due⟩ => ?_⟩
        by_cases before : k < n
        · -- passed, so visited: but a visited record holds no due ticket
          obtain ⟨b, read, scanned⟩ := sweep.passed j a slotted found
            ⟨k, ticket, fresh, before, fun _ => List.not_mem_nil⟩
          rw [moved] at read
          cases read
          have := scanned.ticket_after positive early room ticket
          omega
        · -- not passed, so the wheel holds it in a due bucket, and none is left
          have entry := sweep.entry moved ticket (Nat.le_of_not_lt before)
          obtain ⟨bucket, inside, key⟩ := mem_entries entry
          have key : bucket.1 = k := key
          have := gone bucket inside
          omega
      · obtain ⟨slotted, due, b, read, scanned⟩ := sweep.changed j a found moved
        exact .inr ⟨slotted, due.due now bounded, b, read, scanned⟩
    found := fun x member => by
      obtain ⟨j, a, slotted, found, named, due, candidate, idle, read⟩ := sweep.found x member
      exact ⟨j, a, slotted, found, named, due.due now bounded, candidate, idle, read⟩ }

end Sweeping

/-- The periodic scan at `now` of the newest records of a world whose registered slots hold
records of their ids and whose wheel backs its records, when it succeeds, stores back exactly the
records of a world it swept: each due record of a slot of its id visited once, every other record
left alone, and every id it found a due stale candidate. -/
theorem scanStale_swept (holds : w.SlotsHold) (backed : w.WheelBacked)
    (positive : 0 < w.collector.quantum.toNanos) (early : w.collector.epoch ≤ now)
    {c' : Collector} {acts : List Activation} {stale : List Nat}
    (scanned : w.collector.scanStale w.newest now = .ok (c', acts, stale)) :
    ∃ u : World γ, (w.putNewest acts).records = u.records ∧ w.Swept now c' u stale := by
  obtain ⟨room, ⟨below, quiet⟩ | ⟨due, st, walk, result⟩⟩ := scanStale_sweeps scanned
  · -- nothing is due: the scan hands back the wheel and the records as they were
    simp only [Prod.mk.injEq] at quiet
    obtain ⟨rfl, rfl, rfl⟩ := quiet
    refine ⟨w, putNewest_newest holds (Related.refl Activation.Reticketed.refl w) rfl rfl
      fun j differs => absurd rfl differs, ?_⟩
    exact {
      room := room
      slots := rfl
      size := rfl
      related := Related.refl Activation.Reticketed.refl w
      backed := backed.of_same rfl rfl
      quantum := rfl
      epoch := rfl
      next := by omega
      records := fun j a found => .inl ⟨found, fun _ ⟨k, _, fresh, due⟩ => by omega⟩
      found := fun x member => by cases member }
  obtain ⟨n, u, sweep⟩ := (Sweeping.start backed due).sweeps holds positive early room walk
  obtain ⟨c, acts', stale'⟩ := st
  obtain ⟨rfl, rfl, rfl⟩ : c' = { c with nextTicket := w.collector.lastDue now + 1 } ∧
      acts = acts' ∧ stale = stale' := by
    simp only [Prod.mk.injEq] at result
    exact result
  have newest : acts = u.newest := sweep.newest
  refine ⟨u, ?_, sweep.finish positive early room⟩
  rw [newest]
  refine putNewest_newest holds sweep.related sweep.slots sweep.size fun j differs => ?_
  rcases found : w.record? j with _ | a
  · exact absurd (by rw [sweep.related.missing found, found]) differs
  · rw [found] at differs
    exact ⟨a.id, (sweep.changed j a found differs).1⟩

end World

end ActorSilo
