import ActorSilo.Activation.Record

/-! # Turn bookkeeping of an activation

Two facts about the running turns and the mailbox carry the silo's scheduling guarantees:
`TurnsSafe` (an interleaved turn runs only beside a first turn, and on a type that is not
reentrant every two running turns are `Turn.Compatible`) and `NotStranded` (an activation ready
for turns that runs none has nothing waiting). The second is broken by a finished turn and mended
by the message pump, `Activation.pump`.
-/

namespace ActorSilo

namespace Turn

/-- Two turns may run on one activation together: one of them is always-interleave, or both
are read-only. -/
def Compatible (t u : Turn) : Prop :=
  t.alwaysInterleave = true ∨ u.alwaysInterleave = true ∨ (t.readOnly = true ∧ u.readOnly = true)

/-- A turn with neither of the flags that let turns run together. -/
def Plain (t : Turn) : Prop := t.readOnly = false ∧ t.alwaysInterleave = false

theorem not_compatible_of_plain {t u : Turn} (ht : t.Plain) (hu : u.Plain) : ¬ t.Compatible u := by
  simp [Compatible, ht.1, ht.2, hu.2]

theorem length_le_one_of_plain {turns : List Turn} (compatible : turns.Pairwise Compatible)
    (plain : ∀ t ∈ turns, t.Plain) : turns.length ≤ 1 := by
  match turns, compatible with
  | [], _ => simp
  | [_], _ => simp
  | t :: u :: _, compatible =>
    have both : t.Compatible u := List.rel_of_pairwise_cons compatible (by simp)
    exact absurd both (not_compatible_of_plain (plain t (by simp)) (plain u (by simp)))

end Turn

/-- A message with neither of the flags that let turns run together. -/
def Message.Plain (m : Message) : Prop := m.isReadOnly = false ∧ m.isAlwaysInterleave = false

theorem Turn.ofMessage_plain {m : Message} (plain : m.Plain) (now : Instant) :
    (Turn.ofMessage m now).Plain := plain

namespace Activation

/-- An interleaved turn runs only beside a first turn, and unless the grain type is reentrant
every two running turns may run together. -/
structure TurnsSafe (a : Activation) : Prop where
  interleaved_of_idle : a.running = none → a.interleaved = []
  compatible : a.grainType.reentrant = false → a.turns.Pairwise Turn.Compatible

/-- An activation that is ready for turns and runs none has nothing waiting. -/
def NotStranded (a : Activation) : Prop :=
  a.state = .inactive → a.running = none → a.mailbox = []

/-- Two records of one activation with the same turn bookkeeping: lifecycle state, grain type,
running turns and mailbox. -/
structure SameTurns (a b : Activation) : Prop where
  state : b.state = a.state
  grainType : b.grainType = a.grainType
  running : b.running = a.running
  interleaved : b.interleaved = a.interleaved
  mailbox : b.mailbox = a.mailbox

/-- A change that starts no turn and readies nothing: the grain type and the running turns
stay, the mailbox stays or is taken away, and the state stays or becomes one other than
`inactive`. The lifecycle of an activation moves this way, apart from its becoming ready. -/
structure LifecycleMove (a b : Activation) : Prop where
  grainType : b.grainType = a.grainType
  running : b.running = a.running
  interleaved : b.interleaved = a.interleaved
  mailbox : b.mailbox = a.mailbox ∨ b.mailbox = []
  state : b.state = a.state ∨ b.state ≠ .inactive

theorem SameTurns.refl (a : Activation) : SameTurns a a := ⟨rfl, rfl, rfl, rfl, rfl⟩

theorem SameTurns.trans {a b c : Activation} (first : SameTurns a b) (second : SameTurns b c) :
    SameTurns a c :=
  ⟨second.state.trans first.state, second.grainType.trans first.grainType,
    second.running.trans first.running, second.interleaved.trans first.interleaved,
    second.mailbox.trans first.mailbox⟩

theorem LifecycleMove.trans {a b c : Activation} (first : LifecycleMove a b)
    (second : LifecycleMove b c) : LifecycleMove a c where
  grainType := second.grainType.trans first.grainType
  running := second.running.trans first.running
  interleaved := second.interleaved.trans first.interleaved
  mailbox := by
    rcases second.mailbox with same | taken
    · rw [same]
      exact first.mailbox
    · exact .inr taken
  state := by
    rcases second.state with same | left
    · rw [same]
      exact first.state
    · exact .inr left

theorem SameTurns.lifecycleMove {a b : Activation} (same : SameTurns a b) : LifecycleMove a b :=
  ⟨same.grainType, same.running, same.interleaved, .inl same.mailbox, .inl same.state⟩

theorem TurnsSafe.of_turns {a b : Activation} (safe : a.TurnsSafe) (running : b.running = a.running)
    (interleaved : b.interleaved = a.interleaved) (grainType : b.grainType = a.grainType) :
    b.TurnsSafe where
  interleaved_of_idle idle := interleaved ▸ safe.interleaved_of_idle (running ▸ idle)
  compatible reentrant := by
    have same : b.turns = a.turns := by simp [turns, running, interleaved]
    exact same ▸ safe.compatible (grainType ▸ reentrant)

theorem LifecycleMove.notStranded {a b : Activation} (move : LifecycleMove a b)
    (notStranded : a.NotStranded) : b.NotStranded := by
  intro ready idle
  rcases move.mailbox with same | taken
  · rcases move.state with sameState | left
    · rw [same]
      exact notStranded (sameState ▸ ready) (move.running ▸ idle)
    · exact absurd ready left
  · exact taken

theorem setState_lifecycleMove (a : Activation) {s : ActivationState} (notReady : s ≠ .inactive) :
    LifecycleMove a (a.setState s).1 := by
  unfold setState
  split
  · exact ⟨rfl, rfl, rfl, .inl rfl, .inr notReady⟩
  · exact (SameTurns.refl a).lifecycleMove

theorem takePending_lifecycleMove (a : Activation) : LifecycleMove a a.takePending.2 :=
  ⟨rfl, rfl, rfl, .inr rfl, .inl rfl⟩

/-! ## The dispatcher's changes -/

@[simp] theorem dequeue_state (a : Activation) : a.dequeue.2.state = a.state := by
  unfold dequeue; split <;> rfl

@[simp] theorem dequeue_grainType (a : Activation) : a.dequeue.2.grainType = a.grainType := by
  unfold dequeue; split <;> rfl

@[simp] theorem dequeue_running (a : Activation) : a.dequeue.2.running = a.running := by
  unfold dequeue; split <;> rfl

@[simp] theorem dequeue_interleaved (a : Activation) : a.dequeue.2.interleaved = a.interleaved := by
  unfold dequeue; split <;> rfl

@[simp] theorem dequeue_mailbox (a : Activation) : a.dequeue.2.mailbox = a.mailbox.tail := by
  unfold dequeue; split <;> simp_all

@[simp] theorem dequeue_mayAccept (a : Activation) (m : Message) (reentrant : Bool) :
    a.dequeue.2.mayAccept m reentrant = a.mayAccept m reentrant := by
  unfold dequeue; split <;> rfl

@[simp] theorem recordRunning_state (a : Activation) (m : Message) (now : Instant) :
    (a.recordRunning m now).state = a.state := by
  unfold recordRunning; split <;> rfl

@[simp] theorem recordRunning_grainType (a : Activation) (m : Message) (now : Instant) :
    (a.recordRunning m now).grainType = a.grainType := by
  unfold recordRunning; split <;> rfl

@[simp] theorem recordRunning_mailbox (a : Activation) (m : Message) (now : Instant) :
    (a.recordRunning m now).mailbox = a.mailbox := by
  unfold recordRunning; split <;> rfl

@[simp] theorem dequeue_turns (a : Activation) : a.dequeue.2.turns = a.turns := by
  simp [turns]

theorem mem_recordRunning_turns {a : Activation} {m : Message} {now : Instant} {t : Turn}
    (member : t ∈ (a.recordRunning m now).turns) : t ∈ a.turns ∨ t = Turn.ofMessage m now := by
  unfold recordRunning at member
  split at member
  · rename_i idle
    simp only [turns, Option.toList_some, List.cons_append, List.nil_append, List.mem_cons] at member
    rcases member with started | interleaved
    · exact .inr started
    · exact .inl (by simp [turns, interleaved])
  · simp only [turns, List.mem_append, List.mem_singleton] at member
    rcases member with first | interleaved | started
    · exact .inl (by simp [turns, first])
    · exact .inl (by simp [turns, interleaved])
    · exact .inr started

theorem state_of_mayAccept {a : Activation} {m : Message} {reentrant : Bool}
    (accepts : a.mayAccept m reentrant = true) : a.state = .inactive := by
  simp only [mayAccept, Bool.and_eq_true] at accepts
  cases state : a.state <;> simp_all [ActivationState.isUsable]

theorem mayAccept_of_idle {a : Activation} (ready : a.state = .inactive) (idle : a.running = none)
    (m : Message) (reentrant : Bool) : a.mayAccept m reentrant = true := by
  simp [mayAccept, ready, idle, ActivationState.isUsable]

theorem compatible_of_mayInterleave {a : Activation} {m : Message}
    (interleaves : a.mayInterleave m false = true) (now : Instant) :
    ∀ u ∈ a.turns, u.Compatible (Turn.ofMessage m now) := by
  intro u member
  simp only [mayInterleave, Bool.false_or, Bool.or_eq_true, List.all_eq_true, List.mem_filter,
    Bool.not_eq_eq_eq_not, Bool.not_true, Bool.and_eq_true] at interleaves
  rcases interleaves with always | readOnly
  · exact .inr (.inl always)
  · cases flagged : u.alwaysInterleave
    · exact .inr (.inr (readOnly u ⟨member, flagged⟩))
    · exact .inl flagged

theorem running_eq_none_of_plain {a : Activation} {m : Message}
    (accepts : a.mayAccept m false = true) (plain : m.Plain) (turns : ∀ t ∈ a.turns, t.Plain) :
    a.running = none := by
  rcases first : a.running with _ | t
  · rfl
  · have running : t ∈ a.turns := by simp [Activation.turns, first]
    have blocked : a.mayInterleave m false = false := by
      simp only [mayInterleave, Bool.false_or, plain.2, List.all_eq_false]
      exact ⟨t, List.mem_filter.mpr ⟨running, by simp [(turns t running).2]⟩, by simp [plain.1]⟩
    simp [mayAccept, first, blocked] at accepts

theorem TurnsSafe.recordRunning {a : Activation} {m : Message} (safe : a.TurnsSafe)
    (accepts : a.mayAccept m a.grainType.reentrant = true) (now : Instant) :
    (a.recordRunning m now).TurnsSafe := by
  cases first : a.running with
  | none =>
    have idle := safe.interleaved_of_idle first
    constructor
    · intro running
      simp [Activation.recordRunning, first] at running
    · intro _
      simp [Activation.recordRunning, first, turns, idle]
  | some r =>
    constructor
    · intro running
      simp [Activation.recordRunning, first] at running
    · intro reentrant
      rw [recordRunning_grainType] at reentrant
      have interleaves : a.mayInterleave m false = true := by
        simp only [mayAccept, first, reentrant, Option.isNone_some, Bool.false_or,
          Bool.and_eq_true] at accepts
        exact accepts.2
      have grown : (a.recordRunning m now).turns = a.turns ++ [Turn.ofMessage m now] := by
        simp [Activation.recordRunning, first, turns]
      rw [grown, List.pairwise_append]
      refine ⟨safe.compatible reentrant, List.pairwise_singleton _ _, ?_⟩
      intro u member t single
      rw [List.mem_singleton] at single
      subst single
      exact compatible_of_mayInterleave interleaves now u member

theorem notStranded_recordRunning (a : Activation) (m : Message) (now : Instant) :
    (a.recordRunning m now).NotStranded := by
  intro _ idle
  cases first : a.running <;> simp [Activation.recordRunning, first] at idle

theorem NotStranded.enqueue {a b : Activation} {m : Message}
    (refused : a.mayAccept m a.grainType.reentrant = false) (queued : a.enqueue m = .ok b) :
    b.NotStranded := by
  unfold Activation.enqueue at queued
  split at queued
  · cases queued
  · cases queued
    intro ready idle
    have accepts := mayAccept_of_idle (a := a) ready idle m a.grainType.reentrant
    rw [refused] at accepts
    cases accepts

theorem enqueue_mailbox {a b : Activation} {m : Message} (queued : a.enqueue m = .ok b) :
    b.mailbox = a.mailbox ++ [m] ∧ b.state = a.state ∧ b.grainType = a.grainType ∧
      b.running = a.running ∧ b.interleaved = a.interleaved := by
  unfold Activation.enqueue at queued
  split at queued
  · cases queued
  · cases queued
    exact ⟨rfl, rfl, rfl, rfl, rfl⟩

theorem resetRunning_eq (a : Activation) (id : Nat) (now : Instant) :
    ∃ running interleaved becameIdle,
      (a.resetRunning id now).2 = { a with running, interleaved, becameIdle } ∧
      ((running = a.running ∧ interleaved.Sublist a.interleaved) ∨
        (∃ t, a.running = some t ∧ running = a.interleaved.head? ∧
          interleaved = a.interleaved.tail)) := by
  -- the cases of the definition: nothing matches, the first turn finishes with or without
  -- interleaved turns beside it, or an interleaved turn finishes
  rcases first : a.running with _ | t
  · rcases found : a.interleaved.findIdx? (·.id == id) with _ | i
    · refine ⟨none, a.interleaved, a.becameIdle, ?_, .inl ⟨rfl, .refl _⟩⟩
      simp only [resetRunning, resetRunning.fromInterleaved, first, found]
      rw [← first]
    · simp only [resetRunning, resetRunning.fromInterleaved, first, found]
      split <;> (try split)
      all_goals exact ⟨_, _, _, rfl, .inl ⟨rfl, List.eraseIdx_sublist _ _⟩⟩
  · by_cases same : t.id = id
    · rcases rest : a.interleaved with _ | ⟨next, later⟩
      all_goals
        simp only [resetRunning, first, same, rest, beq_self_eq_true, if_true]
        split
        all_goals exact ⟨_, _, _, rfl, .inr ⟨t, rfl, rfl, rfl⟩⟩
    · rcases found : a.interleaved.findIdx? (·.id == id) with _ | i
      · refine ⟨some t, a.interleaved, a.becameIdle, ?_, .inl ⟨rfl, .refl _⟩⟩
        simp only [resetRunning, resetRunning.fromInterleaved, first, found, same, beq_iff_eq,
          if_false]
        rw [← first]
      · simp only [resetRunning, resetRunning.fromInterleaved, first, found, same, beq_iff_eq,
          if_false]
        split <;> (try split)
        all_goals exact ⟨_, _, _, rfl, .inl ⟨rfl, List.eraseIdx_sublist _ _⟩⟩

theorem resetRunning_state (a : Activation) (id : Nat) (now : Instant) :
    (a.resetRunning id now).2.state = a.state ∧ (a.resetRunning id now).2.mailbox = a.mailbox ∧
      (a.resetRunning id now).2.grainType = a.grainType := by
  obtain ⟨_, _, _, shape, _⟩ := a.resetRunning_eq id now
  rw [shape]
  exact ⟨rfl, rfl, rfl⟩

theorem resetRunning_turns_sublist (a : Activation) (id : Nat) (now : Instant) :
    (a.resetRunning id now).2.turns.Sublist a.turns := by
  obtain ⟨running, interleaved, becameIdle, shape, change⟩ := a.resetRunning_eq id now
  rw [shape]
  rcases change with ⟨same, fewer⟩ | ⟨t, first, promoted, rest⟩
  · simp only [turns, same]
    exact fewer.append_left _
  · simp only [turns, first, promoted, rest, Option.toList_some]
    cases a.interleaved <;> simp

theorem interleaved_of_idle_resetRunning {a : Activation}
    (headed : a.running = none → a.interleaved = []) (id : Nat) (now : Instant) :
    (a.resetRunning id now).2.running = none → (a.resetRunning id now).2.interleaved = [] := by
  obtain ⟨running, interleaved, becameIdle, shape, change⟩ := a.resetRunning_eq id now
  rw [shape]
  intro idle
  rcases change with ⟨same, fewer⟩ | ⟨t, first, promoted, rest⟩
  · exact List.eq_nil_of_sublist_nil (headed (same ▸ idle) ▸ fewer)
  · simp only at idle
    rw [idle, eq_comm, List.head?_eq_none_iff] at promoted
    simp [rest, promoted]

theorem TurnsSafe.resetRunning {a : Activation} (safe : a.TurnsSafe) (id : Nat) (now : Instant) :
    (a.resetRunning id now).2.TurnsSafe := by
  constructor
  · exact interleaved_of_idle_resetRunning safe.interleaved_of_idle id now
  · intro reentrant
    rw [(a.resetRunning_state id now).2.2] at reentrant
    exact (safe.compatible reentrant).sublist (a.resetRunning_turns_sublist id now)

/-! ## The message pump -/

/-- What the message pump does to an activation at `now` in at most `fuel` rounds: the
activation it leaves and the requests whose turns it starts, in order. It stops at an
activation that is not ready, at an empty mailbox or at a request that may not start yet;
expired requests are dropped on the way. -/
def pump (a : Activation) (now : Instant) : Nat → Activation × List Message
  | 0 => (a, [])
  | fuel + 1 =>
    if !a.state.isUsable then (a, [])
    else
      match a.peek? with
      | none => (a, [])
      | some next =>
        if !a.mayAccept next a.grainType.reentrant then (a, [])
        else if !next.isExpired now then
          let (b, started) := (a.dequeue.2.recordRunning next now).pump now fuel
          (b, next :: started)
        else a.dequeue.2.pump now fuel

theorem peek_eq_some {a : Activation} {next : Message} (peeked : a.peek? = some next) :
    a.mailbox = next :: a.mailbox.tail := by
  unfold peek? at peeked
  cases queue : a.mailbox <;> simp_all

theorem pump_state (now : Instant) (fuel : Nat) (a : Activation) :
    (a.pump now fuel).1.state = a.state ∧ (a.pump now fuel).1.grainType = a.grainType := by
  induction fuel generalizing a with
  | zero => exact ⟨rfl, rfl⟩
  | succ fuel ih =>
    simp only [pump]
    split
    · exact ⟨rfl, rfl⟩
    · split
      · exact ⟨rfl, rfl⟩
      · split
        · exact ⟨rfl, rfl⟩
        · split
          · exact ⟨(ih _).1.trans (by simp), (ih _).2.trans (by simp)⟩
          · exact ⟨(ih _).1.trans (by simp), (ih _).2.trans (by simp)⟩

theorem SameTurns.mayAccept {a b : Activation} (same : SameTurns a b) (m : Message)
    (reentrant : Bool) : b.mayAccept m reentrant = a.mayAccept m reentrant := by
  simp [Activation.mayAccept, mayInterleave, turns, same.state, same.running, same.interleaved]

theorem SameTurns.dequeue {a b : Activation} (same : SameTurns a b) :
    SameTurns a.dequeue.2 b.dequeue.2 :=
  ⟨by simp [same.state], by simp [same.grainType], by simp [same.running],
    by simp [same.interleaved], by simp [same.mailbox]⟩

theorem SameTurns.recordRunning {a b : Activation} (same : SameTurns a b) (m : Message)
    (now : Instant) : SameTurns (a.recordRunning m now) (b.recordRunning m now) := by
  unfold Activation.recordRunning
  rw [same.running]
  split
  · exact ⟨same.state, same.grainType, rfl, same.interleaved, same.mailbox⟩
  · exact ⟨same.state, same.grainType, rfl, by rw [same.interleaved], same.mailbox⟩

/-- The pump reads nothing of an activation but its turn bookkeeping. -/
theorem SameTurns.pump {a b : Activation} (same : SameTurns a b) (now : Instant) (fuel : Nat) :
    SameTurns (a.pump now fuel).1 (b.pump now fuel).1 ∧ (b.pump now fuel).2 = (a.pump now fuel).2 := by
  induction fuel generalizing a b with
  | zero => exact ⟨same, rfl⟩
  | succ fuel ih =>
    have peeked : b.peek? = a.peek? := by simp [peek?, same.mailbox]
    -- both pumps take the same branch, since every test reads only the bookkeeping
    simp only [Activation.pump, same.state, peeked, same.mayAccept, same.grainType]
    by_cases unusable : a.state.isUsable = false
    · simp [unusable, same]
    rcases head : a.peek? with _ | next
    · simp [same]
    by_cases refused : a.mayAccept next a.grainType.reentrant = false
    · simp [refused, same]
    by_cases expired : next.isExpired now = true
    · simpa [unusable, refused, expired] using ih same.dequeue
    · have rest := ih (same.dequeue.recordRunning next now)
      simp [unusable, refused, expired, rest.1, rest.2]

theorem pump_notStranded (now : Instant) (fuel : Nat) (a : Activation)
    (enough : a.mailbox.length ≤ fuel) : (a.pump now fuel).1.NotStranded := by
  induction fuel generalizing a with
  | zero =>
    intro _ _
    exact List.eq_nil_of_length_eq_zero (Nat.le_zero.mp enough)
  | succ fuel ih =>
    simp only [pump]
    split
    · rename_i unusable
      intro ready
      simp only at ready
      simp [ready, ActivationState.isUsable] at unusable
    · split
      · rename_i empty
        intro _ _
        unfold peek? at empty
        exact List.head?_eq_none_iff.mp empty
      · rename_i next peeked
        have shorter : a.dequeue.2.mailbox.length ≤ fuel := by
          rw [dequeue_mailbox, List.length_tail]
          omega
        split
        · rename_i refused
          intro ready idle
          have accepts := mayAccept_of_idle ready idle next a.grainType.reentrant
          simp [accepts] at refused
        · split
          · exact ih _ (by simpa using shorter)
          · exact ih _ shorter

theorem pump_sublist (now : Instant) (fuel : Nat) (a : Activation) :
    ((a.pump now fuel).2 ++ (a.pump now fuel).1.mailbox).Sublist a.mailbox := by
  induction fuel generalizing a with
  | zero => exact .refl _
  | succ fuel ih =>
    simp only [pump]
    split
    · exact .refl _
    · split
      · exact .refl _
      · rename_i next peeked
        have queue := peek_eq_some peeked
        split
        · exact .refl _
        · split
          · have rest := ih (a.dequeue.2.recordRunning next now)
            rw [recordRunning_mailbox, dequeue_mailbox] at rest
            rw [queue, List.cons_append]
            exact rest.cons_cons next
          · have rest := ih a.dequeue.2
            rw [dequeue_mailbox] at rest
            rw [queue]
            exact rest.cons next

theorem pump_turns_plain (now : Instant) (fuel : Nat) {a : Activation}
    (turns : ∀ t ∈ a.turns, t.Plain) (waiting : ∀ m ∈ a.mailbox, m.Plain) :
    ∀ t ∈ (a.pump now fuel).1.turns, t.Plain := by
  induction fuel generalizing a with
  | zero => exact turns
  | succ fuel ih =>
    simp only [pump]
    split
    · exact turns
    · split
      · exact turns
      · rename_i next peeked
        have head : next ∈ a.mailbox := by
          rw [peek_eq_some peeked]
          exact List.mem_cons_self
        have rest : ∀ m ∈ a.dequeue.2.mailbox, m.Plain := by
          intro m member
          rw [dequeue_mailbox] at member
          exact waiting m (List.mem_of_mem_tail member)
        split
        · exact turns
        · split
          · refine ih ?_ (by simpa using rest)
            intro t member
            rcases mem_recordRunning_turns member with old | started
            · exact turns t (by simpa using old)
            · exact started ▸ Turn.ofMessage_plain (waiting next head) now
          · exact ih (by simpa using turns) rest

end Activation

end ActorSilo
