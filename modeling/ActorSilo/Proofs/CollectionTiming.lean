import ActorSilo.Proofs.StaleScan

/-! # What the periodic scan leaves of a record it reaches

The scan at `now` that reaches the bucket of a record that is not a system record finds it when
it is a stale collection candidate. Otherwise the scan schedules it again, its age limit from
`now`. The wheel refuses a limit below a quantum, and the record then leaves the wheel without
being found (`Collector.reached`). A scheduling of at least a quantum puts a record in the bucket
after the timeout (`Collector.schedule_placed`).
-/

namespace ActorSilo

namespace Collector

variable {c c' : Collector} {a b : Activation} {timeout : Duration} {now : Instant}

/-- What the scan at `now` that reaches the bucket of record `a` leaves of it: the record claimed
when it is a stale collection candidate, which the scan then finds; otherwise the record scheduled
again its age limit from `now`, or, when the wheel refuses a limit below a quantum, claimed and
out of the wheel. -/
def reached (c : Collector) (now : Instant) (a : Activation) : Activation :=
  if a.isCandidate now && a.isStale now then a.claim
  else if c.quantum ≤ a.ageLimit then
    { a with cancelled := false, ticket := some (c.bucketAfter a.ageLimit now) }
  else a.claim

/-- A scheduling of at least a quantum that succeeds was of a record that is not a system record,
and puts it in the bucket after the timeout, which the wheel has not scanned yet. -/
theorem schedule_placed (placed : c.schedule a timeout now = .ok (.ok (c', b)))
    (long : c.quantum ≤ timeout) (positive : 0 < c.quantum.toNanos) :
    a.isExempt = false ∧ c.nextTicket ≤ c.bucketAfter timeout now ∧
      b = { a with cancelled := false, ticket := some (c.bucketAfter timeout now) } := by
  unfold schedule at placed
  split at placed
  · cases placed
  rename_i ordinary
  split at placed
  · -- a timeout of a quantum is not zero
    rename_i zero
    have none : timeout.toNanos = 0 := Duration.toNanos_of_isZero zero
    have long : c.quantum.toNanos ≤ timeout.toNanos := long
    omega
  split at placed
  · cases placed
  rcases ticket : c.ticketFor c.nextTicket timeout now with _ | (_ | t)
  all_goals rw [ticket] at placed
  · cases placed
  · cases placed
  · cases placed
    obtain ⟨-, named, fresh⟩ := ticketFor_ok ticket
    subst named
    exact ⟨Bool.eq_false_iff.mpr ordinary, fresh, rfl⟩

end Collector

namespace World

variable {γ : Type}

theorem registeredSlots_putNewest (w : World γ) (as : List Activation) :
    (w.putNewest as).registeredSlots = w.registeredSlots :=
  foldl_invariant (fun w' : World γ => w'.registeredSlots = w.registeredSlots) (fun _ _ same => by
    split
    · exact same
    · exact same) as w rfl

end World

/-- An idle record of an ordinary grain, with an age limit of a minute. -/
def idleRecord : Activation :=
  { Activation.make ⟨SiloAddress.localhost 11111 0, ⟨1, "idle", .grain⟩, 1⟩
      { code := 1, name := "Counter" } ⟨"Test", 0, 0⟩ (.ofSecs 60) 0 with state := .inactive }

/-- An idle record of an ordinary grain with an age limit of one second, below the quantum of the
wheel it is put on. -/
def briefRecord : Activation :=
  { Activation.make ⟨SiloAddress.localhost 1 1, ⟨1, "g1", .grain⟩, 1⟩ { code := 1, name := "Noop" }
      ⟨"Test", 0, 0⟩ (.ofSecs 1) 0 with state := .inactive }

end ActorSilo
