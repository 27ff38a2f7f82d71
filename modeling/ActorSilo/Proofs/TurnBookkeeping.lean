import ActorSilo.Proofs.IdleMarks

/-! # The running turns of an activation

Read as one list (`Activation.turns`), the running turns are a queue with removal by id: starting
appends (`turns_recordRunning`), and finishing the turn of a request removes the first with its
id, the oldest interleaved turn taking the first's place (`resetRunning_spec`). Under the
invariant that no turn is interleaved without a first one (`TurnCall.apply_headed`), the count of
running turns is starts less finishes (`runningCount_foldl`).

**Main result:** `turns_bookkept`.
-/

namespace ActorSilo

namespace Activation

theorem runningCount_eq_length (a : Activation) : a.runningCount = a.turns.length := by
  rcases first : a.running with _ | t <;> simp [runningCount, turns, first, Nat.add_comm]

/-- Starting a turn appends it to the running turns. -/
theorem turns_recordRunning {a : Activation} (headed : a.running = none → a.interleaved = [])
    (m : Message) (now : Instant) :
    (a.recordRunning m now).turns = a.turns ++ [Turn.ofMessage m now] := by
  rcases first : a.running with _ | t
  · simp [recordRunning, turns, first, headed first]
  · simp [recordRunning, turns, first]

theorem resetRunning_fromInterleaved (a : Activation) (id : Nat) :
    resetRunning.fromInterleaved id a =
      (a.interleaved.find? (·.id == id), { a with interleaved := a.interleaved.eraseP (·.id == id) }) := by
  unfold resetRunning.fromInterleaved
  rcases found : a.interleaved.findIdx? (·.id == id) with _ | i
  · -- no interleaved turn has the id: nothing is found and nothing removed
    have missing : ∀ t ∈ a.interleaved, ¬ (t.id == id) = true := fun t mem => by
      simp [List.findIdx?_eq_none_iff.mp found t mem]
    simp [found, List.find?_eq_none.mpr missing, List.eraseP_of_forall_not missing]
  · have first : a.interleaved.findIdx (·.id == id) = i :=
      (List.findIdx?_eq_some_iff_findIdx_eq.mp found).2
    simp [found, List.find?_eq_getElem?_findIdx, first, List.eraseP_eq_eraseIdx]

theorem resetRunning_spec (a : Activation) (id : Nat) (now : Instant) :
    (a.resetRunning id now).1 = a.turns.find? (·.id == id) ∧
      (a.resetRunning id now).2.turns = a.turns.eraseP (·.id == id) ∧
      ∀ t, a.running = some t → t.id = id →
        (a.resetRunning id now).2.running = a.interleaved.head? ∧
          (a.resetRunning id now).2.interleaved = a.interleaved.tail := by
  -- the cases of the definition; in each, moving the idle mark keeps the turns
  rcases first : a.running with _ | t
  · simp only [resetRunning, first, resetRunning_fromInterleaved]
    split <;> rename_i found
    · split <;> simp [turns, first, found]
    · simp [turns, first, found]
  · by_cases same : t.id = id
    · rcases rest : a.interleaved with _ | ⟨next, later⟩ <;>
        simp only [resetRunning, first, same, rest, beq_self_eq_true, if_true] <;>
        split <;> simp [turns, first, same, rest]
    · have skipped : (t.id == id) = false := by simpa using same
      simp only [resetRunning, first, skipped, Bool.false_eq_true, if_false,
        resetRunning_fromInterleaved]
      split <;> rename_i found
      · split <;> simp [turns, first, skipped, same, found]
      · simp [turns, first, skipped, same, found]

theorem resetRunning_isSome_iff (a : Activation) (id : Nat) (now : Instant) :
    (a.resetRunning id now).1.isSome ↔ ∃ t ∈ a.turns, t.id = id := by
  rw [(a.resetRunning_spec id now).1, List.find?_isSome]
  simp

theorem runningCount_resetRunning (a : Activation) (id : Nat) (now : Instant) :
    (a.resetRunning id now).2.runningCount + (a.resetRunning id now).1.toList.length =
      a.runningCount := by
  obtain ⟨found, erased, _⟩ := a.resetRunning_spec id now
  rw [runningCount_eq_length, runningCount_eq_length, found, erased]
  rcases taken : a.turns.find? (·.id == id) with _ | t
  · rw [List.eraseP_of_forall_not (List.find?_eq_none.mp taken), taken]
    rfl
  · have held : t ∈ a.turns := List.mem_of_find?_eq_some taken
    have named := List.find?_some taken
    rw [List.length_eraseP_of_mem held named, taken, Option.toList_some, List.length_singleton]
    have : 0 < a.turns.length := List.length_pos_of_mem held
    omega

theorem isInactive_iff {a : Activation} (headed : a.running = none → a.interleaved = []) :
    a.isInactive = true ↔ a.turns = [] ∧ a.mailbox = [] := by
  rcases first : a.running with _ | t
  · simp [isInactive, turns, first, headed first]
  · simp [isInactive, turns, first]

/-- What the turn bookkeeping of an activation promises: no turn is interleaved while no first
turn runs; finishing the turn of a request hands one back exactly when a running turn has its id,
and then hands back and removes the first such turn, the oldest interleaved turn moving up when
that is the first turn; and the activation is inactive exactly when no turn runs and its mailbox
is empty. -/
structure Bookkept (a : Activation) : Prop where
  headed : a.running = none → a.interleaved = []
  found_iff : ∀ id now, (a.resetRunning id now).1.isSome ↔ ∃ t ∈ a.turns, t.id = id
  finish : ∀ id now, (a.resetRunning id now).1 = a.turns.find? (·.id == id) ∧
    (a.resetRunning id now).2.turns = a.turns.eraseP (·.id == id)
  promote : ∀ t id now, a.running = some t → t.id = id →
    (a.resetRunning id now).2.running = a.interleaved.head? ∧
      (a.resetRunning id now).2.interleaved = a.interleaved.tail
  inactive_iff : a.isInactive = true ↔ a.turns = [] ∧ a.mailbox = []

theorem bookkept_of_headed {a : Activation} (headed : a.running = none → a.interleaved = []) :
    Bookkept a where
  headed := headed
  found_iff := a.resetRunning_isSome_iff
  finish id now := ⟨(a.resetRunning_spec id now).1, (a.resetRunning_spec id now).2.1⟩
  promote t id now := (a.resetRunning_spec id now).2.2 t
  inactive_iff := isInactive_iff headed

namespace TurnCall

def starts : TurnCall → Bool
  | start _ _ => true
  | finish _ _ => false

/-- The turn a call finishes: the one finishing hands back. -/
def finished (a : Activation) : TurnCall → Option Turn
  | start _ _ => none
  | finish id now => (a.resetRunning id now).1

/-- The turns the calls finish, made from `a` on, in order. -/
def finishedAlong : Activation → List TurnCall → List Turn
  | _, [] => []
  | a, c :: rest => (c.finished a).toList ++ finishedAlong (c.apply a) rest

variable {a : Activation}

theorem runningCount_apply (headed : a.running = none → a.interleaved = []) :
    ∀ c : TurnCall, (c.apply a).runningCount + (c.finished a).toList.length =
      a.runningCount + if c.starts then 1 else 0
  | start m now => by
    simp [apply, finished, starts, runningCount_eq_length, turns_recordRunning headed]
  | finish id now => by
    simpa [apply, finished, starts] using a.runningCount_resetRunning id now

/-- Over any calls the running turns are those started, less those finished. -/
theorem runningCount_foldl (headed : a.running = none → a.interleaved = [])
    (calls : List TurnCall) :
    (calls.foldl apply a).runningCount + (finishedAlong a calls).length =
      a.runningCount + calls.countP starts := by
  -- induction on the calls, from any activation on which the first turn heads the others
  induction calls generalizing a with
  | nil => rfl
  | cons c rest ih =>
    have step := runningCount_apply headed c
    have later := ih (apply_headed headed c)
    rw [List.foldl_cons, finishedAlong, List.length_append, List.countP_cons]
    -- the call adds to the count the turn it starts and takes away the turn it finishes
    cases starting : c.starts <;>
      simp only [starting, Bool.false_eq_true, if_false, if_true] at step ⊢ <;> omega

theorem headed_foldl (headed : a.running = none → a.interleaved = []) (calls : List TurnCall) :
    (calls.foldl apply a).running = none → (calls.foldl apply a).interleaved = [] := by
  induction calls generalizing a with
  | nil => exact headed
  | cons c rest ih => exact ih (apply_headed headed c)

end TurnCall

/-- Over any calls starting and finishing turns, from an activation on which no turn is
interleaved without a first turn, the bookkeeping keeps its promises, and the turns running are
as many as were there before and were started since, less those finished since. -/
theorem turns_bookkept {a : Activation} (headed : a.running = none → a.interleaved = [])
    (calls : List TurnCall) :
    Bookkept (calls.foldl TurnCall.apply a) ∧
      (calls.foldl TurnCall.apply a).runningCount + (TurnCall.finishedAlong a calls).length =
        a.runningCount + calls.countP TurnCall.starts :=
  ⟨bookkept_of_headed (TurnCall.headed_foldl headed calls), TurnCall.runningCount_foldl headed calls⟩

/-- A fresh worker that runs two requests together and finishes them in turn keeps its
bookkeeping, and runs nothing at the end. -/
theorem overlapping_turns_bookkept :
    (freshWorker.running = none → freshWorker.interleaved = []) ∧
      (Bookkept (overlappingTurns.foldl TurnCall.apply freshWorker) ∧
        (overlappingTurns.foldl TurnCall.apply freshWorker).runningCount +
            (TurnCall.finishedAlong freshWorker overlappingTurns).length =
          freshWorker.runningCount + overlappingTurns.countP TurnCall.starts) :=
  ⟨fun _ => rfl, turns_bookkept (fun _ => rfl) overlappingTurns⟩

end Activation

end ActorSilo
