import ActorSilo.Proofs.WheelTickets
import ActorSilo.Proofs.Evacuation

/-! # The wheel backs the tickets of every record of a world

A world keeps every record it made, and an id may be registered again, so the wheel and the
records agree as multisets: from the first bucket not yet scanned on, each entry occurs as often
as records of its id hold its ticket (`World.WheelBacked`). Every operation of the wheel on one
record is a trade (`Collector.Retickets`) and keeps that (`World.WheelBacked.retickets`); where
the wheel backs a record, rescheduling it moves it where its timeout asks
(`Collector.reschedule_moves`).
-/

namespace ActorSilo

namespace Collector

variable {c c' c'' : Collector} {a b d : Activation} {k t : Nat} {timeout : Duration}
  {now : Instant}

/-! ## Trades between the wheel and one record -/

/-- An operation of the wheel `c` on the record `a` that leaves the wheel `c'` and the record
`b` is a trade: the record changes only in its collection slot, the wheel keeps its quantum,
its epoch and its first bucket not yet scanned, keeps its buckets ascending and at or after that
bucket, and from that bucket on gains exactly the tickets the record gains. The record ends up
holding no claimed ticket, and any ticket it gains names a bucket not yet scanned. -/
structure Retickets (c : Collector) (a : Activation) (c' : Collector) (b : Activation) : Prop where
  frame : Frame c c'
  reticketed : a.Reticketed b
  sorted : Ascending c.buckets → Ascending c'.buckets
  future : (∀ x ∈ c.buckets, c.nextTicket ≤ x.1) → ∀ x ∈ c'.buckets, c.nextTicket ≤ x.1
  counts : Ascending c.buckets → ∀ x : Nat × Nat, c.nextTicket ≤ x.1 →
    c'.entries.count x + (holding a).count x = c.entries.count x + (holding b).count x
  unclaimed : (a.ticket.isSome → a.cancelled = false) → b.ticket.isSome → b.cancelled = false
  fresh : ∀ k, b.ticket = some k → c.nextTicket ≤ k ∨ b.ticket = a.ticket

theorem Retickets.refl (c : Collector) (a : Activation) : Retickets c a c a where
  frame := .refl c
  reticketed := .refl a
  sorted := id
  future := id
  counts _ _ _ := rfl
  unclaimed := id
  fresh _ _ := .inr rfl

theorem Retickets.trans (first : Retickets c a c' b) (second : Retickets c' b c'' d) :
    Retickets c a c'' d where
  frame := first.frame.trans second.frame
  reticketed := first.reticketed.trans second.reticketed
  sorted sorted := second.sorted (first.sorted sorted)
  future later := by
    have kept := second.future (first.frame.nextTicket ▸ first.future later)
    rwa [first.frame.nextTicket] at kept
  counts sorted x later := by
    have h₁ := first.counts sorted x later
    have h₂ := second.counts (first.sorted sorted) x (first.frame.nextTicket ▸ later)
    omega
  unclaimed claims := second.unclaimed (first.unclaimed claims)
  fresh k held := by
    rcases second.fresh k held with later | same
    · exact .inl (first.frame.nextTicket ▸ later)
    · rcases first.fresh k (same ▸ held) with later | same'
      · exact .inl later
      · exact .inr (same.trans same')

theorem Retickets.id (moved : Retickets c a c' b) : b.id = a.id := by
  rw [← moved.reticketed]
  rfl

theorem retickets_clear (stale : ∀ k, a.ticket = some k → k < c.nextTicket) (claimed : Bool) :
    Retickets c a c { a with cancelled := claimed, ticket := none } where
  frame := .refl c
  reticketed := Activation.reticketed_set a none claimed
  sorted := id
  future := id
  counts _ x later := by
    have owed : (holding a).count x = 0 := by
      rcases ticket : a.ticket with _ | k
      · simp [holding, ticket]
      · have below := stale k ticket
        have other : (k, a.id) ≠ x := by
          rintro rfl
          exact absurd later (Nat.not_le.mpr below)
        simp [holding, ticket, other]
    have cleared : (holding { a with cancelled := claimed, ticket := none }).count x = 0 := rfl
    omega
  unclaimed _ held := by simp at held
  fresh _ held := by simp at held

theorem retickets_removeFrom (c : Collector) (a : Activation) (t : Nat) :
    Retickets c a (c.removeFrom a t).1 (c.removeFrom a t).2.1 := by
  unfold removeFrom
  rcases found : c.bucket? t with _ | ids
  · exact .refl c a
  dsimp only
  split
  · rename_i claims
    simp only [Bool.and_eq_true, beq_iff_eq, Bool.not_eq_eq_eq_not, Bool.not_true,
      List.contains_iff_mem] at claims
    obtain ⟨⟨ticket, -⟩, inside⟩ := claims
    refine ⟨frame_setBucket c t _, Activation.reticketed_set a none true, fun sorted =>
      setBucket_ascending sorted _, fun later x member => ?_, fun sorted x _ => ?_,
      fun _ held => by simp at held, fun _ held => by simp at held⟩
    · rcases mem_setBucket member with key | old
      · rw [key]
        exact later _ (bucket?_mem found)
      · exact later x old
    · -- the bucket loses the entry of the record, and the record its ticket
      have bucket := (entries_setBucket (t := t) sorted (ids.erase a.id)).count_eq x
      have erased : (ids.map (t, ·)).count x =
          [(t, a.id)].count x + ((ids.erase a.id).map (t, ·)).count x := by
        rw [← List.count_append]
        exact ((List.perm_cons_erase inside).map (t, ·)).count_eq x
      rw [found, Option.getD_some] at bucket
      simp only [List.count_append] at bucket
      have before : holding a = [(t, a.id)] := by simp [holding, ticket]
      have after : holding { a with cancelled := true, ticket := none } = [] := rfl
      rw [before, after, List.count_nil]
      dsimp only
      omega
  · exact .refl c a

theorem retickets_add (free : a.ticket = none) (later : c.nextTicket ≤ t) :
    Retickets c a (c.add a t).1 (c.add a t).2 where
  frame := frame_add c a t
  reticketed := Activation.reticketed_set a (some t) false
  sorted sorted := setBucket_ascending sorted _
  future before x member := by
    rcases mem_setBucket member with key | old
    · rw [key]
      exact later
    · exact before x old
  counts sorted x _ := by
    have bucket := (entries_setBucket (t := t) sorted (((c.bucket? t).getD []) ++ [a.id])).count_eq x
    simp only [List.map_append, List.map_cons, List.map_nil, List.count_append] at bucket
    have before : holding a = [] := by simp [holding, free]
    have after : holding (c.add a t).2 = [(t, a.id)] := rfl
    rw [before, after]
    show (c.setBucket t (((c.bucket? t).getD []) ++ [a.id])).entries.count x + [].count x = _
    rw [List.count_nil]
    omega
  unclaimed _ _ := rfl
  fresh k held := by
    simp only [Collector.add, Option.some.injEq] at held
    exact .inl (held ▸ later)

theorem retickets_schedule (placed : c.schedule a timeout now = .ok (.ok (c', b))) :
    Retickets c a c' b := by
  unfold schedule at placed
  split at placed
  · cases placed
  split at placed
  · cases placed
    exact .refl c a
  split at placed
  · cases placed
  rename_i _ _ unscheduled
  rcases ticket : c.ticketFor c.nextTicket timeout now with _ | (_ | t)
  all_goals rw [ticket] at placed
  · cases placed
  · cases placed
  · cases placed
    have free : a.ticket = none := by simpa using unscheduled
    exact retickets_add free (ticketFor_ok ticket).2.2

theorem retickets_cancel (c : Collector) (a : Activation) :
    Retickets c a (c.cancel a).1 (c.cancel a).2.1 := by
  unfold cancel
  split
  · exact .refl c a
  split
  · exact .refl c a
  split
  · exact .refl c a
  · exact retickets_removeFrom c a _

/-! ## Records the wheel backs -/

/-- The wheel backs a record: a ticket of the record at or after the first bucket not yet
scanned is unclaimed and is an entry of its bucket. -/
def Backs (c : Collector) (a : Activation) : Prop :=
  ∀ k, a.ticket = some k → c.nextTicket ≤ k → a.cancelled = false ∧ (k, a.id) ∈ c.entries

theorem removeFrom_backed (sorted : Ascending c.buckets) (backs : c.Backs a)
    (ticket : a.ticket = some k) (later : c.nextTicket ≤ k) :
    c.removeFrom a k = (c.setBucket k (((c.bucket? k).getD []).erase a.id),
      { a with cancelled := true, ticket := none }, true) := by
  obtain ⟨unclaimed, entry⟩ := backs k ticket later
  have inside := (mem_entries_iff sorted).mp entry
  rcases found : c.bucket? k with _ | ids
  · rw [found] at inside
    cases inside
  rw [found, Option.getD_some] at inside
  unfold removeFrom
  simp [found, ticket, unclaimed, inside]

theorem retickets_reschedule (sorted : Ascending c.buckets) (backs : c.Backs a) {r : Bool}
    (moved : c.reschedule a timeout now = .ok (c', b, r)) : Retickets c a c' b := by
  unfold reschedule at moved
  split at moved
  · cases moved
    exact .refl c a
  split at moved
  · rename_i none
    cases moved
    exact retickets_clear (fun k held => by simp [none] at held) a.cancelled
  rename_i old ticket
  split at moved
  · rename_i stale
    cases moved
    exact retickets_clear (fun k held => by
      rw [ticket] at held
      cases held
      exact stale) a.cancelled
  rename_i later
  have taken := removeFrom_backed sorted backs ticket (Nat.le_of_not_lt later)
  have removal := retickets_removeFrom c a old
  rw [taken] at removal
  rcases given : c.ticketFor c.nextTicket timeout now with _ | (_ | new)
  all_goals rw [given] at moved
  · cases moved
  · -- no new ticket: the record is taken out and left unscheduled
    simp only [taken, bind, Except.bind, pure, Except.pure] at moved
    cases moved
    exact removal.trans (retickets_clear (fun k held => by simp at held) true)
  · dsimp only [bind, Except.bind] at moved
    split at moved
    · cases moved
      exact .refl c a
    rw [taken] at moved
    dsimp only at moved
    cases moved
    exact removal.trans (retickets_add rfl (removal.frame.nextTicket ▸ (ticketFor_ok given).2.2))

/-- Rescheduling a backed record that holds a ticket not yet scanned, with a timeout that gets
a ticket, moves it to that ticket. -/
theorem reschedule_moves (sorted : Ascending c.buckets) (backs : c.Backs a)
    (ticket : a.ticket = some k) (later : c.nextTicket ≤ k) (exempt : a.isExempt = false)
    (given : c.ticketFor c.nextTicket timeout now = .ok (.ok t)) :
    ∃ c', c.reschedule a timeout now = .ok (c', { a with cancelled := false, ticket := some t }, true) := by
  have unclaimed := (backs k ticket later).1
  have taken := removeFrom_backed sorted backs ticket later
  unfold reschedule
  simp only [exempt, Bool.false_eq_true, if_false, ticket, Nat.not_lt.mpr later, given, bind,
    Except.bind, pure, Except.pure]
  by_cases same : t = k
  · subst same
    refine ⟨c, ?_⟩
    simp only [beq_self_eq_true, if_true]
    rw [← unclaimed, ← ticket]
  · simp only [beq_iff_eq, same, if_false, taken]
    exact ⟨_, rfl⟩

theorem reschedule_ticket (exempt : a.isExempt = false) {r : Bool}
    (moved : c.reschedule a timeout now = .ok (c', b, r)) :
    b.ticket = none ∨ b.ticket = some (c.bucketAfter timeout now) := by
  unfold reschedule at moved
  simp only [exempt, Bool.false_eq_true, if_false] at moved
  split at moved
  · cases moved
    exact .inl rfl
  rename_i old ticket
  split at moved
  · cases moved
    exact .inl rfl
  rcases given : c.ticketFor c.nextTicket timeout now with _ | (_ | new)
  all_goals rw [given] at moved
  · cases moved
  · cases moved
    exact .inl rfl
  · have named := (ticketFor_ok given).2.1
    dsimp only [bind, Except.bind] at moved
    split at moved
    · rename_i same
      cases moved
      rw [ticket, ← named, eq_of_beq same]
      exact .inr rfl
    · generalize c.removeFrom a old = q at moved
      obtain ⟨c₁, a₁, removed⟩ := q
      dsimp only at moved
      split at moved
      · cases moved
        exact .inl rfl
      · cases moved
        exact .inr (by rw [named]; rfl)

theorem reschedule_scheduled (moved : c.reschedule a timeout now = .ok (c', b, true)) :
    b.ticket = some (c.bucketAfter timeout now) := by
  unfold reschedule at moved
  split at moved
  · cases moved
  split at moved
  · cases moved
  rename_i old ticket
  split at moved
  · cases moved
  rcases given : c.ticketFor c.nextTicket timeout now with _ | (_ | new)
  all_goals rw [given] at moved
  · cases moved
  · cases moved
  · have named := (ticketFor_ok given).2.1
    dsimp only [bind, Except.bind] at moved
    split at moved
    · rename_i same
      cases moved
      rw [ticket, ← named, eq_of_beq same]
    · generalize c.removeFrom a old = q at moved
      obtain ⟨c₁, a₁, removed⟩ := q
      dsimp only at moved
      split at moved
      · cases moved
      · cases moved
        rw [named]
        rfl

theorem reschedule_unscheduled (exempt : a.isExempt = false)
    (moved : c.reschedule a timeout now = .ok (c', b, false)) : b.ticket = none := by
  unfold reschedule at moved
  simp only [exempt, Bool.false_eq_true, if_false] at moved
  split at moved
  · cases moved
    rfl
  split at moved
  · cases moved
    rfl
  rcases given : c.ticketFor c.nextTicket timeout now with _ | (_ | new)
  all_goals rw [given] at moved
  · cases moved
  · cases moved
    rfl
  · dsimp only [bind, Except.bind] at moved
    split at moved
    · cases moved
    · generalize c.removeFrom a _ = q at moved
      obtain ⟨c₁, a₁, removed⟩ := q
      dsimp only at moved
      split at moved
      · cases moved
        rfl
      · cases moved

theorem schedule_ticket (placed : c.schedule a timeout now = .ok (.ok (c', b))) :
    timeout.isZero = true ∧ b = a ∨ c.quantum ≤ timeout ∧
      b = { a with cancelled := false, ticket := some (c.bucketAfter timeout now) } := by
  unfold schedule at placed
  split at placed
  · cases placed
  split at placed
  · cases placed
    exact .inl ⟨‹_›, rfl⟩
  split at placed
  · cases placed
  rcases ticket : c.ticketFor c.nextTicket timeout now with _ | (_ | t)
  all_goals rw [ticket] at placed
  · cases placed
  · cases placed
  · cases placed
    obtain ⟨long, named, -⟩ := ticketFor_ok ticket
    subst named
    exact .inr ⟨long, rfl⟩

theorem schedule_refused {e : CollectorError} (refused : c.schedule a timeout now = .ok (.error e)) :
    a.isExempt = true ∨ timeout < c.quantum ∨ a.ticket.isSome = true ∨
      c.bucketAfter timeout now < c.nextTicket := by
  unfold schedule at refused
  split at refused
  · exact .inl ‹_›
  split at refused
  · cases refused
  split at refused
  · exact .inr (.inr (.inl ‹_›))
  rename_i exempt zero free
  by_cases short : timeout < c.quantum
  · exact .inr (.inl short)
  rcases fits : now.add? timeout with _ | due
  · rw [ticketFor_beyond short fits] at refused
    cases refused
  rw [ticketFor_fits short fits] at refused
  split at refused
  · exact .inr (.inr (.inr ‹_›))
  · cases refused

end Collector

namespace World

open Collector

variable {γ : Type} {w : World γ} {slot : Nat} {a b : Activation}

/-! ## The tickets of a world -/

/-- The tickets the records of a world hold, each with the id of its record. -/
def tickets (w : World γ) : List (Nat × Nat) := held w.records.toList

theorem count_held_set {l : List Activation} {i : Nat} (found : l[i]? = some a) (b : Activation)
    (x : Nat × Nat) : (held (l.set i b)).count x + (holding a).count x =
      (held l).count x + (holding b).count x := by
  induction l generalizing i with
  | nil => simp at found
  | cons y rest ih =>
    cases i with
    | zero =>
      simp only [List.getElem?_cons_zero, Option.some.injEq] at found
      subst found
      simp only [List.set_cons_zero, held_cons, List.count_append]
      omega
    | succ i =>
      simp only [List.getElem?_cons_succ] at found
      have := ih found
      simp only [List.set_cons_succ, held_cons, List.count_append]
      omega

theorem count_tickets_putRecord (found : w.record? slot = some a) (b : Activation) (x : Nat × Nat) :
    (w.putRecord slot b).tickets.count x + (holding a).count x =
      w.tickets.count x + (holding b).count x := by
  unfold tickets putRecord
  rw [Array.toList_setIfInBounds]
  exact count_held_set (by simpa [record?] using found) b x

theorem mem_tickets (found : w.record? slot = some a) {k : Nat} (ticket : a.ticket = some k) :
    (k, a.id) ∈ w.tickets :=
  mem_held.mpr ⟨a, by simpa using Array.mem_of_getElem? found, ticket, rfl⟩

theorem tickets_addRecord {a : Activation} (free : a.ticket = none) :
    (w.addRecord a).1.tickets = w.tickets := by
  simp [tickets, addRecord, held, free]

/-! ## The wheel in step with the records -/

/-- The wheel of a world is in step with its records: its buckets are ascending and none comes
before the first bucket not yet scanned; from that bucket on, each entry occurs as often as
records hold it as their ticket; and no record holds a claimed ticket. -/
structure WheelBacked (w : World γ) : Prop where
  sorted : Ascending w.collector.buckets
  future : ∀ x ∈ w.collector.buckets, w.collector.nextTicket ≤ x.1
  counts : ∀ x : Nat × Nat, w.collector.nextTicket ≤ x.1 →
    w.collector.entries.count x = w.tickets.count x
  unclaimed : ∀ slot a, w.record? slot = some a → a.ticket.isSome → a.cancelled = false

namespace WheelBacked

theorem backs (backed : w.WheelBacked) (found : w.record? slot = some a) : w.collector.Backs a := by
  intro k ticket later
  refine ⟨backed.unclaimed slot a found (by simp [ticket]), ?_⟩
  -- the record's ticket is counted among the world's, so the wheel holds it too
  have held : (k, a.id) ∈ w.tickets := mem_tickets found ticket
  have counted := backed.counts (k, a.id) later
  exact List.count_pos_iff.mp (counted ▸ List.count_pos_iff.mpr held)

/-- A trade on one record keeps the wheel in step. -/
theorem retickets (backed : w.WheelBacked) (found : w.record? slot = some a) {c' : Collector}
    (moved : Retickets w.collector a c' b) : ({ w.putRecord slot b with collector := c' } : World γ).WheelBacked where
  sorted := moved.sorted backed.sorted
  future := by
    have kept := moved.future backed.future
    rwa [moved.frame.nextTicket.symm] at kept
  counts x later := by
    have traded := count_tickets_putRecord found b x
    have counted := backed.counts x (moved.frame.nextTicket ▸ later)
    have gained := moved.counts backed.sorted x (moved.frame.nextTicket ▸ later)
    show c'.entries.count x = (w.putRecord slot b).tickets.count x
    omega
  unclaimed := by
    refine World.forall_putRecord backed.unclaimed slot ?_
    exact moved.unclaimed (backed.unclaimed slot a found)

theorem touch (backed : w.WheelBacked) (found : w.record? slot = some a)
    (id : b.id = a.id) (ticket : b.ticket = a.ticket) (cancelled : b.cancelled = a.cancelled) :
    (w.putRecord slot b).WheelBacked where
  sorted := backed.sorted
  future := backed.future
  counts x later := by
    have traded := count_tickets_putRecord found b x
    have same : holding b = holding a := by simp [holding, id, ticket]
    rw [same] at traded
    have counted := backed.counts x later
    show w.collector.entries.count x = (w.putRecord slot b).tickets.count x
    omega
  unclaimed := World.forall_putRecord backed.unclaimed slot fun held => by
    rw [cancelled]
    exact backed.unclaimed slot a found (ticket ▸ held)

theorem of_same {w' : World γ} (backed : w.WheelBacked) (records : w'.records = w.records)
    (collector : w'.collector = w.collector) : w'.WheelBacked where
  sorted := collector ▸ backed.sorted
  future := collector ▸ backed.future
  counts x later := by
    rw [collector] at later ⊢
    rw [backed.counts x later]
    simp [tickets, records]
  unclaimed slot a found := backed.unclaimed slot a (by simpa [record?, records] using found)

theorem addRecord (backed : w.WheelBacked) {a : Activation} (free : a.ticket = none) :
    (w.addRecord a).1.WheelBacked where
  sorted := backed.sorted
  future := backed.future
  counts x later := by
    rw [tickets_addRecord free]
    exact backed.counts x later
  unclaimed := forall_addRecord backed.unclaimed (by simp [free])

end WheelBacked

end World

end ActorSilo
