import ActorSilo.Proofs.WheelExits

/-! # The forced scan takes exactly the idle candidates

The forced scan for an age walks a copy of every bucket entry by entry, and asks bucket `k` to
give up a record that is a candidate idle for at least the age. `Collector.Take` says once what
one entry does, and the scan is a walk of such steps (`Collector.scanAll_walks`). Where the wheel
and its records agree, the bucket of a record's ticket still holds it when the walk reaches it,
so the scan takes every idle candidate once and nothing else.

**Main result:** `Collector.forced_scan_takes_idle_candidates`.
-/

namespace ActorSilo

namespace Walks

variable {σ α : Type} {step : σ → α → σ → Prop}

theorem append {s s₁ s₂ : σ} {xs ys : List α} (first : Walks step s xs s₁)
    (second : Walks step s₁ ys s₂) : Walks step s (xs ++ ys) s₂ := by
  induction first with
  | nil => exact second
  | cons head _ ih => exact .cons head (ih second)

end Walks

namespace Collector

/-- What the forced scan for `age` at `now` does with one entry `(k, id)` of its copy of the
buckets, in a state of the wheel, the records and the ids taken so far. -/
inductive Take (age : Duration) (now : Instant) :
    Collector × List Activation × List Nat → Nat × Nat → Collector × List Activation × List Nat → Prop
  | missing {c : Collector} {acts : List Activation} {taken : List Nat} {k id : Nat} :
      find? acts id = none → Take age now (c, acts, taken) (k, id) (c, acts, taken)
  /-- The record of the id is not an idle candidate for `age`, or bucket `k` does not give it up. -/
  | stay {c : Collector} {acts : List Activation} {taken : List Nat} {k id : Nat} {a : Activation} :
      find? acts id = some a →
      ¬(a.isCandidate now = true ∧ age ≤ a.idleness now) ∨ (c.removeFrom a k).2.2 = false →
      Take age now (c, acts, taken) (k, id) (c, acts, taken)
  /-- Bucket `k` gives up the record of the id, an idle candidate: it is claimed and taken. -/
  | take {c : Collector} {acts : List Activation} {taken : List Nat} {k id : Nat} {a : Activation} :
      find? acts id = some a → a.isCandidate now = true → age ≤ a.idleness now →
      (c.removeFrom a k).2.2 = true →
      Take age now (c, acts, taken) (k, id) ((c.removeFrom a k).1, replace acts a.claim, taken ++ [id])

/-- The forced scan is a walk of `Take` steps over the entries of the wheel it started from. -/
theorem scanAll_walks (c : Collector) (acts : List Activation) (age : Duration) (now : Instant) :
    Walks (Take age now) (c, acts, []) c.entries (c.scanAll acts age now) := by
  unfold scanAll entries
  generalize (c, acts, ([] : List Nat)) = st
  generalize c.buckets = bs
  induction bs generalizing st with
  | nil => exact .nil st
  | cons b bs ih =>
    obtain ⟨k, ids⟩ := b
    rw [List.foldl_cons, flat_cons]
    refine Walks.append ?_ (ih _)
    dsimp only
    -- the entries of one bucket, visited in order
    induction ids generalizing st with
    | nil => exact .nil st
    | cons id ids ih' =>
      rw [List.foldl_cons, List.map_cons]
      refine .cons ?_ (ih' _)
      obtain ⟨c₁, acts₁, taken⟩ := st
      dsimp only
      rcases found : find? acts₁ id with _ | a
      · exact .missing found
      dsimp only
      split
      · rename_i wanted
        simp only [Bool.and_eq_true, decide_eq_true_eq] at wanted
        rcases result : c₁.removeFrom a k with ⟨c₂, a₂, _ | _⟩
        · -- the bucket kept the record, and nothing changed
          have kept := removeFrom_kept (show (c₁.removeFrom a k).2.2 = false by rw [result])
          rw [kept] at result
          cases result
          rw [if_neg Bool.false_ne_true]
          exact .stay found (.inr (by rw [kept]))
        · have removed : (c₁.removeFrom a k).2.2 = true := by rw [result]
          have claimed := (removeFrom_claims removed).1
          have step : Take age now (c₁, acts₁, taken) (k, id)
              ((c₁.removeFrom a k).1, replace acts₁ a.claim, taken ++ [id]) :=
            .take found wanted.1 wanted.2 removed
          rw [result] at claimed step
          dsimp only at claimed step
          rw [claimed]
          exact step
      · rename_i unwanted
        exact .stay found (.inl fun ⟨candidate, idle⟩ => unwanted (by simp [candidate, idle]))

variable {age : Duration} {now : Instant} {st st' r : Collector × List Activation × List Nat}
  {e : Nat × Nat} {a : Activation} {acts₀ : List Activation}

namespace Take

theorem holds (step : Take age now st e st') (holds : Holds st.1 st.2.1 []) :
    Holds st'.1 st'.2.1 [] ∧ Frame st.1 st'.1 := by
  cases step with
  | missing => exact ⟨holds, .refl _⟩
  | stay => exact ⟨holds, .refl _⟩
  | @take c acts taken k id a found _ _ removed =>
    have moved := holds.removeFrom (find?_mem found).1 k
    rw [(removeFrom_claims removed).1] at moved
    exact ⟨moved, frame_removeFrom c a k⟩

theorem keeps (step : Take age now st e st') {x : Nat} (taken : x ∈ st.2.2) : x ∈ st'.2.2 := by
  cases step with
  | missing => exact taken
  | stay => exact taken
  | take => exact List.mem_append_left _ taken

theorem named (step : Take age now st e st') (named : Named acts₀ st) : Named acts₀ st' := by
  cases step with
  | missing => exact named
  | stay => exact named
  | take found => exact named.taken found _

theorem held_length (step : Take age now st e st') (ids : (st.2.1.map (·.id)).Nodup) :
    (held st'.2.1).length + st'.2.2.length = (held st.2.1).length + st.2.2.length := by
  cases step with
  | missing => rfl
  | stay => rfl
  | @take c acts taken k id a found _ _ removed =>
    have traded := (held_replace ids (find?_mem found).1 (Activation.claim_id a)).length_eq
    have holding_a : holding a = [(k, a.id)] := by simp [holding, (removeFrom_claims removed).2]
    have holding_claim : holding a.claim = [] := rfl
    rw [holding_a, holding_claim] at traded
    simp only [List.length_append, List.length_cons, List.length_nil] at traded ⊢
    omega

theorem takes (step : Take age now st e st') (ids : (st.2.1.map (·.id)).Nodup)
    (takes : Takes age now a st) : Takes age now a st' := by
  cases step with
  | missing => exact takes
  | stay => exact takes
  | @take c acts taken k id a' found candidate idle removed =>
    obtain ⟨inside, same⟩ := find?_mem found
    by_cases mine : id = a.id
    · subst mine
      rcases takes with ⟨read, none⟩ | ⟨-, -, -, read, -⟩
      · -- the record taken is `a` itself, not taken before
        rw [read] at found
        cases found
        refine .inr ⟨by simp [(removeFrom_claims removed).2], candidate, idle, ?_, by
          simp [List.count_append, none]⟩
        rw [find?_replace ids (find?_mem read).1]
        simp
      · -- a claimed record holds no ticket, so no bucket gives it up
        rw [read] at found
        cases found
        cases (removeFrom_claims removed).2
    · exact takes.frame (by rw [Activation.claim_id, same]; exact mine) (by simp [List.count_append, mine])

theorem takes_own {k : Nat} (step : Take age now st (k, a.id) st') (holds : Holds st.1 st.2.1 [])
    (read : find? st.2.1 a.id = some a) (ticket : a.ticket = some k) (candidate : a.isCandidate now = true)
    (idle : age ≤ a.idleness now) : a.id ∈ st'.2.2 := by
  have member := (find?_mem read).1
  have backed : (st.1.removeFrom a k).2.2 = true := by
    rw [removeFrom_backed holds.sorted (holds.backs member) ticket (holds.ticket_future member ticket)]
  cases step with
  | missing found => rw [read] at found; cases found
  | stay found refused =>
    rw [read] at found
    cases found
    rcases refused with unwanted | kept
    · exact absurd ⟨candidate, idle⟩ unwanted
    · rw [backed] at kept
      cases kept
  | take => exact List.mem_append_right _ (List.mem_singleton_self _)

end Take

theorem Take.walk_takes_wanted {es : List (Nat × Nat)} {k : Nat} (walk : Walks (Take age now) st es r)
    (holds : Holds st.1 st.2.1 []) (takes : Takes age now a st) (ticket : a.ticket = some k)
    (candidate : a.isCandidate now = true) (idle : age ≤ a.idleness now)
    (ahead : a.id ∈ st.2.2 ∨ (k, a.id) ∈ es) : a.id ∈ r.2.2 := by
  induction walk with
  | nil _ =>
    rcases ahead with taken | none
    · exact taken
    · cases none
  | cons step _ ih =>
    refine ih (step.holds holds).1 (step.takes holds.ids takes) ?_
    rcases ahead with taken | inside
    · exact .inl (step.keeps taken)
    rcases List.mem_cons.mp inside with here | later
    · -- the step reaches the record's own entry
      subst here
      rcases takes with ⟨read, -⟩ | ⟨-, -, -, -, once⟩
      · exact .inl (step.takes_own holds read ticket candidate idle)
      · exact .inl (step.keeps (List.count_pos_iff.mp (by omega)))
    · exact .inr later

theorem Take.walk_invariant {es : List (Nat × Nat)} (walk : Walks (Take age now) st es r)
    (holds : Holds st.1 st.2.1 []) (named : Named acts₀ st) :
    Holds r.1 r.2.1 [] ∧ Frame st.1 r.1 ∧ Named acts₀ r ∧
      (held r.2.1).length + r.2.2.length = (held st.2.1).length + st.2.2.length := by
  induction walk with
  | nil _ => exact ⟨holds, .refl _, named, rfl⟩
  | cons step _ ih =>
    obtain ⟨holds₁, frame₁⟩ := step.holds holds
    obtain ⟨holdsᵣ, frameᵣ, namedᵣ, lengthᵣ⟩ := ih holds₁ (step.named named)
    exact ⟨holdsᵣ, frame₁.trans frameᵣ, namedᵣ, lengthᵣ.trans (step.held_length holds.ids)⟩

theorem Consistent.held_iff {c : Collector} {acts : List Activation} (consistent : Consistent c acts now)
    (member : a ∈ acts) : (∃ k, a.id ∈ (c.bucket? k).getD []) ↔ a.ticket.isSome := by
  constructor
  · rintro ⟨k, inside⟩
    obtain ⟨b, found, ticket⟩ := consistent.owner inside
    rw [find?_of_mem consistent.holds.ids member] at found
    cases found
    simp [ticket]
  · intro scheduled
    obtain ⟨k, ticket⟩ := Option.isSome_iff_exists.mp scheduled
    exact ⟨k, (consistent.entry member ticket).1⟩

/-- The forced scan for `age` at `now` of a wheel in step with its records takes, each exactly once,
exactly the records held in the wheel that are collection candidates idle for at least `age`
(usable, with nothing running or waiting, not kept alive). It leaves each of them claimed, with
no ticket, and every other record as it was; the count drops by the number taken, the first
bucket not yet scanned stays where it was, and the wheel stays in step with its records. -/
theorem forced_scan_takes_idle_candidates {c c' : Collector} {acts acts' : List Activation}
    {taken : List Nat} (consistent : Consistent c acts now) (age : Duration)
    (scanned : c.scanAll acts age now = (c', acts', taken)) :
    taken.Nodup ∧
      (∀ a ∈ acts, a.id ∈ taken ↔
        (∃ k, a.id ∈ (c.bucket? k).getD []) ∧ a.isCandidate now = true ∧ age ≤ a.idleness now) ∧
      (∀ id ∈ taken, id ∈ acts.map (·.id)) ∧
      acts'.map (·.id) = acts.map (·.id) ∧
      (∀ a ∈ acts, find? acts' a.id = some (if a.id ∈ taken then a.claim else a)) ∧
      c'.count + taken.length = c.count ∧
      c'.nextTicket = c.nextTicket ∧ Consistent c' acts' now := by
  have holds := consistent.holds
  have walk := scanAll_walks c acts age now
  rw [scanned] at walk
  obtain ⟨holds', frame, named, length⟩ := Take.walk_invariant walk holds ⟨rfl, fun x inside => by cases inside⟩
  obtain ⟨nodup, exits⟩ := scanAll_exits (c := c) holds.ids age now
  obtain ⟨-, takes⟩ := scanAll_takes (c := c) holds.ids age now
  rw [scanned] at nodup exits takes
  -- what happens to each record: taken exactly when it is a wanted record of the wheel
  have decided : ∀ a ∈ acts, a.id ∈ taken ↔
      (∃ k, a.id ∈ (c.bucket? k).getD []) ∧ a.isCandidate now = true ∧ age ≤ a.idleness now := by
    intro a member
    rw [consistent.held_iff member]
    constructor
    · intro inside
      rcases takes a member with ⟨-, none⟩ | ⟨scheduled, candidate, idle, -, -⟩
      · dsimp only at none
        exact absurd (List.count_pos_iff.mpr inside) (by omega)
      · exact ⟨scheduled, candidate, idle⟩
    · rintro ⟨scheduled, candidate, idle⟩
      obtain ⟨k, ticket⟩ := Option.isSome_iff_exists.mp scheduled
      have entry := holds.held_entry member ticket
      rw [List.append_nil] at entry
      exact Take.walk_takes_wanted walk holds (.inl ⟨find?_of_mem holds.ids member, rfl⟩) ticket candidate idle
        (.inr entry)
  refine ⟨nodup, decided, named.2, named.1, fun a member => ?_, ?_, frame.nextTicket, ?_⟩
  · by_cases inside : a.id ∈ taken
    · rw [if_pos inside]
      exact ((exits a member).1 inside).2
    · rw [if_neg inside]
      exact (exits a member).2 inside
  · -- the count is the number of tickets held, before and after
    rw [count_eq_length, count_eq_length]
    have before := holds.perm.length_eq
    have after := holds'.perm.length_eq
    simp only [List.append_nil] at before after
    dsimp only at length
    simp only [List.length_nil, Nat.add_zero] at length
    omega
  · exact { holds := holds'
            positive := frame.quantum ▸ consistent.positive
            early := frame.epoch ▸ consistent.early
            bounded := by
              rw [frame.nextTicket, lastDue_congr frame.quantum frame.epoch]
              exact consistent.bounded
            room := frame.nextTicket ▸ consistent.room }

end Collector

/-- `idleRecord` scheduled a minute ahead on a fresh wheel of ten-second quanta, then forced out by
a scan at ninety seconds for records idle a minute: the scan takes it, and only it. -/
theorem idle_record_forced_out :
    ∃ c acts c' acts' taken, Collector.Consistent c acts (Duration.ofSecs 90).toNanos ∧
      c.scanAll acts (.ofSecs 60) (Duration.ofSecs 90).toNanos = (c', acts', taken) ∧
      taken = [idleRecord.id] ∧
      (taken.Nodup ∧
      (∀ a ∈ acts, a.id ∈ taken ↔
        (∃ k, a.id ∈ (c.bucket? k).getD []) ∧ a.isCandidate (Duration.ofSecs 90).toNanos = true ∧
          .ofSecs 60 ≤ a.idleness (Duration.ofSecs 90).toNanos) ∧
      (∀ id ∈ taken, id ∈ acts.map (·.id)) ∧
      acts'.map (·.id) = acts.map (·.id) ∧
      (∀ a ∈ acts, Collector.find? acts' a.id = some (if a.id ∈ taken then a.claim else a)) ∧
      c'.count + taken.length = c.count ∧
      c'.nextTicket = c.nextTicket ∧ Collector.Consistent c' acts' (Duration.ofSecs 90).toNanos) := by
  -- the schedule puts the record into bucket 6, due at a minute
  let placed := (Collector.make (.ofSecs 10) 0).add idleRecord 6
  have run : WheelRun (Collector.make (.ofSecs 10) 0, [idleRecord]) 0
      [.schedule idleRecord.id (.ofSecs 60)] (placed.1, [placed.2]) 0 :=
    .step (Nat.le_refl 0) rfl (.nil _ _)
  have distinct : ([idleRecord].map (·.id)).Nodup := List.nodup_singleton _
  have unscheduled : ∀ a ∈ [idleRecord], a.ticket = none := fun a inside => by
    rw [List.mem_singleton.mp inside]
    rfl
  have consistent : Collector.Consistent placed.1 [placed.2] (Duration.ofSecs 90).toNanos :=
    ((Collector.Consistent.make (.ofSecs 10) distinct unscheduled).run run).later (by decide)
  exact ⟨placed.1, [placed.2], _, _, _, consistent, rfl, by decide,
    Collector.forced_scan_takes_idle_candidates consistent (.ofSecs 60) rfl⟩

end ActorSilo
