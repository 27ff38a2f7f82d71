import ActorSilo.Proofs.SoundLifecycle
import ActorSilo.Proofs.DispatchRuns

/-! # Properties of every record along every run

A property of one record that every new record has, and that every step of `Activation.Step`
and every move of a collection ticket keeps, holds of every record of every world a silo reaches
by the changes `World.Change` lists (`RecordInvariant.changes`), and so of every world a run of
the silo reaches (`RecordInvariant.start`).

The steps of a record keep the activation it is the record of, its address and its grain type
(`Activation.Step.address`, `Activation.Step.grainType`), and change its mailbox only by taking
requests out of it or by queueing one under the guards of `Activation.Step.enqueue`
(`Activation.Step.mailbox`).
-/

namespace ActorSilo

namespace Activation

/-! ## What the changes of a record keep -/

section Frame

variable (a : Activation)

@[simp] theorem setState_address (s : ActivationState) : (a.setState s).1.address = a.address := by
  unfold setState; split <;> rfl

@[simp] theorem setState_grainType (s : ActivationState) :
    (a.setState s).1.grainType = a.grainType := by
  unfold setState; split <;> rfl

@[simp] theorem setState_mailbox (s : ActivationState) : (a.setState s).1.mailbox = a.mailbox := by
  unfold setState; split <;> rfl

@[simp] theorem setState_running (s : ActivationState) : (a.setState s).1.running = a.running := by
  unfold setState; split <;> rfl

@[simp] theorem setState_interleaved (s : ActivationState) :
    (a.setState s).1.interleaved = a.interleaved := by
  unfold setState; split <;> rfl

@[simp] theorem recordRunning_address (m : Message) (now : Instant) :
    (a.recordRunning m now).address = a.address := by
  unfold recordRunning; split <;> rfl

@[simp] theorem dequeue_address : a.dequeue.2.address = a.address := by
  unfold dequeue; split <;> rfl

@[simp] theorem resetRunning_address (id : Nat) (now : Instant) :
    (a.resetRunning id now).2.address = a.address := by
  obtain ⟨_, _, _, shape, _⟩ := a.resetRunning_eq id now
  rw [shape]

@[simp] theorem takeOnIdle_address : a.takeOnIdle.2.address = a.address := by
  unfold takeOnIdle; split <;> rfl

@[simp] theorem takeOnIdle_grainType : a.takeOnIdle.2.grainType = a.grainType := by
  unfold takeOnIdle; split <;> rfl

@[simp] theorem takeOnIdle_mailbox : a.takeOnIdle.2.mailbox = a.mailbox := by
  unfold takeOnIdle; split <;> rfl

@[simp] theorem takeOnIdle_running : a.takeOnIdle.2.running = a.running := by
  unfold takeOnIdle; split <;> rfl

@[simp] theorem takeOnIdle_interleaved : a.takeOnIdle.2.interleaved = a.interleaved := by
  unfold takeOnIdle; split <;> rfl

@[simp] theorem delayDeactivation_address (d : Duration) (now : Instant) :
    (a.delayDeactivation d now).address = a.address := by
  unfold delayDeactivation; split
  · rfl
  · split <;> rfl

@[simp] theorem delayDeactivation_grainType (d : Duration) (now : Instant) :
    (a.delayDeactivation d now).grainType = a.grainType := by
  unfold delayDeactivation; split
  · rfl
  · split <;> rfl

@[simp] theorem delayDeactivation_mailbox (d : Duration) (now : Instant) :
    (a.delayDeactivation d now).mailbox = a.mailbox := by
  unfold delayDeactivation; split
  · rfl
  · split <;> rfl

@[simp] theorem delayDeactivation_running (d : Duration) (now : Instant) :
    (a.delayDeactivation d now).running = a.running := by
  unfold delayDeactivation; split
  · rfl
  · split <;> rfl

@[simp] theorem delayDeactivation_interleaved (d : Duration) (now : Instant) :
    (a.delayDeactivation d now).interleaved = a.interleaved := by
  unfold delayDeactivation; split
  · rfl
  · split <;> rfl

@[simp] theorem startShuttingDown_address (reason : DeactivationReason) :
    (a.startShuttingDown reason).1.address = a.address := by
  unfold startShuttingDown; split <;> rfl

@[simp] theorem startShuttingDown_grainType (reason : DeactivationReason) :
    (a.startShuttingDown reason).1.grainType = a.grainType := by
  unfold startShuttingDown; split <;> rfl

@[simp] theorem startShuttingDown_mailbox (reason : DeactivationReason) :
    (a.startShuttingDown reason).1.mailbox = a.mailbox := by
  unfold startShuttingDown; split <;> rfl

@[simp] theorem startShuttingDown_running (reason : DeactivationReason) :
    (a.startShuttingDown reason).1.running = a.running := by
  unfold startShuttingDown; split <;> rfl

@[simp] theorem startShuttingDown_interleaved (reason : DeactivationReason) :
    (a.startShuttingDown reason).1.interleaved = a.interleaved := by
  unfold startShuttingDown; split <;> rfl

@[simp] theorem takeOnIdle_state : a.takeOnIdle.2.state = a.state := by
  unfold takeOnIdle; split <;> rfl

@[simp] theorem delayDeactivation_state (d : Duration) (now : Instant) :
    (a.delayDeactivation d now).state = a.state := by
  unfold delayDeactivation; split
  · rfl
  · split <;> rfl

@[simp] theorem startShuttingDown_state (reason : DeactivationReason) :
    (a.startShuttingDown reason).1.state = a.state := by
  unfold startShuttingDown; split <;> rfl

@[simp] theorem takePending_mailbox : a.takePending.2.mailbox = [] := rfl

@[simp] theorem takePending_state : a.takePending.2.state = a.state := rfl

@[simp] theorem takePending_address : a.takePending.2.address = a.address := rfl

@[simp] theorem takePending_grainType : a.takePending.2.grainType = a.grainType := rfl

@[simp] theorem takePending_running : a.takePending.2.running = a.running := rfl

@[simp] theorem takePending_interleaved : a.takePending.2.interleaved = a.interleaved := rfl

theorem enqueue_address {m : Message} {b : Activation} (queued : a.enqueue m = .ok b) :
    b.address = a.address := by
  unfold enqueue at queued
  split at queued
  · cases queued
  · cases queued
    rfl

end Frame

variable {config : SiloConfig} {a b : Activation}

/-- A step keeps the address of the activation the record is of. -/
theorem Step.address (step : a.Step config b) : b.address = a.address := by
  cases step with
  | enqueue _ _ _ _ queued => exact enqueue_address a queued
  | activating moved =>
    have same := setState_address a .activating
    rw [moved] at same
    exact same
  | _ => simp [addOnIdle, Activation.resetKeepAlive]

/-- A step keeps the grain type of the record. -/
theorem Step.grainType (step : a.Step config b) : b.grainType = a.grainType := by
  cases step with
  | enqueue _ _ _ _ queued => exact (enqueue_mailbox queued).2.2.1
  | finish id now => exact (resetRunning_state a id now).2.2
  | activating moved =>
    have same := setState_grainType a .activating
    rw [moved] at same
    exact same
  | _ => simp [addOnIdle, Activation.resetKeepAlive]

theorem Step.id (step : a.Step config b) : b.id = a.id := by
  unfold Activation.id
  rw [step.address]

/-- A step takes requests out of the mailbox or empties it, or queues one request that the
record does not accept now, that closes no cycle deadlock detection refuses, and that does not
overload the record. -/
theorem Step.mailbox (step : a.Step config b) :
    (∀ m ∈ b.mailbox, m ∈ a.mailbox) ∨
      ∃ m, b.mailbox = a.mailbox ++ [m] ∧ a.mayAccept m a.grainType.reentrant = false ∧
        ¬(config.messaging.performDeadlockDetection = true ∧ a.grainType.reentrant = false ∧
          m.callChainContains a.id = true) := by
  cases step with
  | dequeue _ _ =>
    left
    intro m member
    rw [dequeue_mailbox] at member
    exact List.mem_of_mem_tail member
  | enqueue refused acyclic _ _ queued => exact .inr ⟨_, (enqueue_mailbox queued).1, refused, acyclic⟩
  | finish id now =>
    left
    rw [(resetRunning_state a id now).2.1]
    exact fun _ member => member
  | activating moved =>
    left
    have same := setState_mailbox a .activating
    rw [moved] at same
    rw [← same]
    exact fun _ member => member
  | _ =>
    left
    simp [addOnIdle, Activation.resetKeepAlive]

theorem Step.turns (step : a.Step config b) :
    (∃ m now, a.mayAccept m a.grainType.reentrant = true ∧ b = a.recordRunning m now) ∨
      (∃ id now, b = (a.resetRunning id now).2) ∨
      (b.running = a.running ∧ b.interleaved = a.interleaved ∧ b.grainType = a.grainType) := by
  cases step with
  | start now accepts => exact .inl ⟨_, now, accepts, rfl⟩
  | finish id now => exact .inr (.inl ⟨id, now, rfl⟩)
  | enqueue _ _ _ _ queued =>
    obtain ⟨-, -, grainType, running, interleaved⟩ := enqueue_mailbox queued
    exact .inr (.inr ⟨running, interleaved, grainType⟩)
  | activating moved =>
    refine .inr (.inr ⟨?_, ?_, ?_⟩)
    · have same := setState_running a .activating
      rw [moved] at same
      exact same
    · have same := setState_interleaved a .activating
      rw [moved] at same
      exact same
    · have same := setState_grainType a .activating
      rw [moved] at same
      exact same
  | dequeue => exact .inr (.inr ⟨dequeue_running a, dequeue_interleaved a, dequeue_grainType a⟩)
  | dispatching | deactivated | resetKeepAlive => exact .inr (.inr ⟨rfl, rfl, rfl⟩)
  | shutdownLater => exact .inr (.inr (by simp [addOnIdle]))
  | _ => exact .inr (.inr (by simp))

end Activation

namespace World

variable {γ : Type}

/-- `P` holds of every record of the world, under the world's configuration. -/
def Each (P : SiloConfig → Activation → Prop) (w : World γ) : Prop :=
  ∀ slot a, w.record? slot = some a → P w.config a

theorem config_putNewest (w : World γ) (as : List Activation) : (w.putNewest as).config = w.config :=
  foldl_invariant (fun w' : World γ => w'.config = w.config) (fun _ _ same => by
    split
    · exact same
    · exact same) as w rfl

theorem each_putNewest {P : Activation → Prop} :
    ∀ (as : List Activation) (w : World γ), (∀ slot a, w.record? slot = some a → P a) →
      (∀ a ∈ as, P a) → ∀ slot a, (w.putNewest as).record? slot = some a → P a
  | [], _, holds, _ => holds
  | a :: rest, w, holds, each => by
    refine each_putNewest rest _ ?_ fun b member => each b (.tail _ member)
    dsimp only
    split
    · exact forall_putRecord holds _ (each a (.head _))
    · exact holds

end World

/-- A property of records that every new record has, and that every step of a record and every
move of its collection ticket keep. -/
structure RecordInvariant (P : SiloConfig → Activation → Prop) : Prop where
  make : ∀ config address grainType limit ageLimit now,
    P config (Activation.make address grainType limit ageLimit now)
  step : ∀ {config a b}, a.Step config b → P config a → P config b
  reticket : ∀ {config a b}, a.Reticketed b → P config a → P config b

namespace RecordInvariant

variable {γ : Type} {P : SiloConfig → Activation → Prop} (inv : RecordInvariant P)
include inv

theorem change {w w' : World γ} (change : w.Change w') (holds : w.Each P) : w'.Each P := by
  cases change with
  | outside records config _ _ _ _ _ =>
    intro slot a found
    rw [config]
    exact holds slot a (by rwa [World.record?, records] at found)
  | record found step =>
    exact World.forall_putRecord holds _ (inv.step step (holds _ _ found))
  | reticket found moved =>
    exact World.forall_putRecord holds _ (inv.reticket moved (holds _ _ found))
  | wheel c => exact holds
  | rescan read =>
    intro slot a found
    rw [World.config_putNewest]
    refine World.each_putNewest _ w holds (fun a member => ?_) slot a found
    obtain ⟨_, slot, b, _, found, moved⟩ := read a member
    exact inv.reticket moved (holds slot b found)
  | create made _ =>
    refine World.forall_addRecord holds ?_
    rw [made]
    exact inv.make _ _ _ _ _ _
  | leave _ => exact holds
  | directory _ => exact holds

theorem changes {w w' : World γ} (changes : Relation.ReflTransGen World.Change w w')
    (holds : w.Each P) : w'.Each P := by
  induction changes with
  | refl => exact holds
  | tail _ last ih => exact inv.change last ih

/-- Along every run of a silo whose grain code is sound, started with sound silo code. -/
theorem start [Grains γ] (grains : Grains.Sound γ) {program : SiloM γ Unit}
    (sound : SiloM.Sound program) (steps rounds : Nat) (x : Executor (World γ) Event Proc)
    (tasks : x.TasksKeep (fun _ => True) World.Changes) (holds : x.world.Each P)
    {x' : Executor (World γ) Event Proc} {out : Outcome}
    (run : Executor.start Proc.run steps rounds x program.toProgram = (x', out)) :
    x'.world.Each P :=
  inv.changes (SiloM.start_changes grains sound steps rounds x tasks run).1 holds

end RecordInvariant

theorem turnsSafe_invariant : RecordInvariant fun _ a => a.TurnsSafe where
  make _ _ _ _ _ _ := ⟨fun _ => rfl, fun _ => List.Pairwise.nil⟩
  step step safe := by
    rcases step.turns with ⟨m, now, accepts, rfl⟩ | ⟨id, now, rfl⟩ | ⟨running, interleaved, grainType⟩
    · exact safe.recordRunning accepts now
    · exact safe.resetRunning id now
    · exact safe.of_turns running interleaved grainType
  reticket moved safe := by
    rw [← moved]
    exact safe.of_turns rfl rfl rfl

/-- Turn interleaving safety. Along every run of a silo whose grain code is sound, started with
sound silo code from a world whose records' turns are safe, every record keeps an interleaved turn
only beside a first turn. On an activation whose grain type is not reentrant, every two turns
that run together may: one of them is always-interleave, or both are read-only. So turns with
neither flag run one at a time. -/
theorem running_turns_compatible {γ : Type} [Grains γ] (grains : Grains.Sound γ)
    {program : SiloM γ Unit} (sound : SiloM.Sound program) (steps rounds : Nat)
    (x : Executor (World γ) Event Proc) (tasks : x.TasksKeep (fun _ => True) World.Changes)
    (safe : x.world.TurnsSafe) {x' : Executor (World γ) Event Proc} {out : Outcome}
    (run : Executor.start Proc.run steps rounds x program.toProgram = (x', out)) :
    x'.world.TurnsSafe ∧ ∀ slot a, x'.world.record? slot = some a → a.grainType.reentrant = false →
      a.turns.Pairwise Turn.Compatible ∧ ((∀ t ∈ a.turns, t.Plain) → a.turns.length ≤ 1) := by
  have reached : x'.world.TurnsSafe :=
    turnsSafe_invariant.start grains sound steps rounds x tasks safe run
  refine ⟨reached, fun slot a found notReentrant => ?_⟩
  have compatible := (reached slot a found).compatible notReentrant
  exact ⟨compatible, Turn.length_le_one_of_plain compatible⟩

/-! ## The test bench

The grains of the test bench touch only the bench's own state and ask the silo for what any
grain may ask: calls, one-way messages, keep-alives and deactivation. -/

namespace Scenario

open SiloM

theorem calm_note (line : String) : Calm (note line) :=
  calm_modify fun _ => .outside rfl rfl rfl rfl rfl rfl rfl rfl

theorem calm_increment (slot : Nat) : Calm (increment slot) :=
  calm_update fun _ _ => .outside rfl rfl rfl rfl rfl rfl rfl rfl

theorem calm_testMethod (ctx : GrainContext) (iface method : Nat) (body : List UInt8) :
    Calm (testMethod ctx iface method body) := by
  unfold testMethod
  refine calm_ite (calm_pure _) ?_
  -- one case per method of the test grain
  split
  · exact calm_increment _
  · exact calm_get.bind fun _ => calm_pure _
  · exact calm_pure _
  · exact (calm_sleepFor _).bind fun _ => calm_increment _
  · split
    · exact calm_increment _
    · refine (GrainContext.calm_call _ _ _ _ _ _).bind fun r => ?_
      cases r with
      | ok => exact calm_pure _
      | error => exact calm_pure _
  · exact (GrainContext.calm_delayDeactivation _ _).bind fun _ => calm_pure _
  · exact (GrainContext.calm_deactivateOnIdle _).bind fun _ => calm_pure _
  · exact calm_pure _
  · split
    · exact calm_increment _
    · exact (GrainContext.calm_sendOneWay _ _ _ _ _).bind fun _ => calm_pure _
  · exact calm_pure _
  · exact (calm_note _).bind fun _ => calm_pure _
  · exact calm_pure _

theorem bench_calm : Grains.Calm Bench where
  onActivate _ _ := by
    refine calm_get.bind fun _ => calm_ite (calm_pure _) ((calm_sleepFor _).bind fun _ => ?_)
    exact calm_ite ((calm_note _).bind fun _ => calm_pure _)
      (calm_ite ((calm_note _).bind fun _ => calm_pure _) ((calm_note _).bind fun _ => calm_pure _))
  onDeactivate _ _ := by
    refine calm_get.bind fun _ => calm_ite (calm_pure _) ((calm_sleepFor _).bind fun _ => ?_)
    exact (calm_note _).bind fun _ =>
      calm_ite (calm_pure _) (calm_ite (calm_pure _) (calm_pure _))
  invoke := calm_testMethod

theorem bench_sound : Grains.Sound Bench := bench_calm.sound

/-- The silo started, and two calls to counter `a` made at once from tasks of their own: a slow
one, whose turn waits ten seconds, and a plain one. -/
def counterCalls : SiloM Bench Unit := do
  start
  let _ ← Async.spawn (do let _ ← call ⟨1, "a", .grain⟩ 1 4 [16, 39, 0, 0, 0, 0, 0, 0] ⟨0⟩)
  let _ ← Async.spawn (do let _ ← call ⟨1, "a", .grain⟩ 1 1 [] ⟨0⟩)
  Async.sleepFor (.ofSecs 20)

theorem calm_counterCalls : Calm counterCalls :=
  calm_start.bind fun _ =>
    (calm_spawn ((calm_siloCall _ _ _ _ _).bind fun _ => calm_pure ()).task).bind fun _ =>
      (calm_spawn ((calm_siloCall _ _ _ _ _).bind fun _ => calm_pure ()).task).bind fun _ =>
        calm_sleepFor _

/-- `counterCalls` run from `counterSilo` for `rounds` rounds, a thousand steps at a time. -/
def counterRun (rounds : Nat) : Executor (World Bench) Event Proc × Outcome :=
  Executor.start Proc.run 1000 rounds { world := counterSilo } counterCalls.toProgram

theorem counterRun_eq (rounds : Nat) :
    Executor.start Proc.run 1000 rounds { world := counterSilo } counterCalls.toProgram =
      ((counterRun rounds).1, (counterRun rounds).2) :=
  rfl

/-- Every property holds of each record of `counterSilo`, which has none. -/
theorem counterSilo_each (P : SiloConfig → Activation → Prop) : counterSilo.Each P := by
  intro slot a found
  simp at found

end Scenario

open Scenario in
/-- After one round of `counterCalls`, the slow call runs alone on the activation of counter `a`
and the plain one waits; the record the other call made for the same grain lost the race and runs
nothing. -/
theorem counter_calls_turns_compatible :
    (counterRun 1).1.world.records.map (fun a => (a.turns.length, a.mailbox.length)) =
        #[(1, 1), (0, 0)] ∧ counterSilo.TurnsSafe ∧ (counterRun 1).1.world.TurnsSafe ∧
      ∀ slot a, (counterRun 1).1.world.record? slot = some a → a.grainType.reentrant = false →
        a.turns.Pairwise Turn.Compatible ∧ ((∀ t ∈ a.turns, t.Plain) → a.turns.length ≤ 1) :=
  ⟨by decide +kernel, counterSilo_idle.turnsSafe,
    running_turns_compatible bench_sound calm_counterCalls.sound 1000 1 { world := counterSilo }
      (fun _ member => (List.not_mem_nil member).elim) counterSilo_idle.turnsSafe (counterRun_eq 1)⟩

end ActorSilo
