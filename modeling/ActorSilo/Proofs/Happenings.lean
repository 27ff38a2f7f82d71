import ActorSilo.Proofs.SiloSteps

/-! # What can happen to the activations of a silo

`Happening` lists the atomic steps the dispatcher and the catalog take on activations, and
`Happening.code` is the code each runs up to its first point of giving up the thread. `Effect`
says once what such a step can do to the turn bookkeeping: move records along their lifecycles,
start or queue a request, release a record and pump its mailbox, or make a record; a release
whose step fails before the pump is marked failed. `Happening.effect` reads the effect of every
happening off its code.
-/

namespace ActorSilo

/-- What may happen to the activations of a silo in one step. -/
inductive Happening where
  /-- A request reaches the activation of a record. -/
  | arrive (m : Message) (slot : Nat)
  /-- A turn on the activation of a record ended. -/
  | complete (slot : Nat) (m : Message)
  /-- The activation of a record finished starting. -/
  | activated (slot : Nat)
  /-- The start of the activation of a record failed. -/
  | failed (slot : Nat) (err : ActivationError)
  /-- The catalog finds the activation of an address, or makes it. -/
  | create (target : ActivationAddress) (placement : Option PlacementStrategy)
  /-- The task that starts the activation of a record runs until it first waits. -/
  | init (slot : Nat)
  /-- Destroying the activation of a record begins. -/
  | beginDestroy (slot : Nat)
  | endRecord (slot : Nat)

namespace Happening

def code {γ : Type} [Grains γ] : Happening → SiloM γ Unit
  | arrive m slot => SiloM.receiveRequest m slot
  | complete slot m => SiloM.onCompletedRequest slot m
  | activated slot => SiloM.onActivateDeactivateCompleted slot
  | failed slot err => SiloM.onActivationFailed slot err
  | create target placement => do let _ ← SiloM.getOrCreate target placement
  | init slot => SiloM.initActivation slot
  | beginDestroy slot => do let _ ← SiloM.beginDestroy slot
  | endRecord slot => SiloM.endRecord slot

/-- The requests that reach an activation when it happens, with the slot of its record. -/
def arrivals : Happening → List (Nat × Message)
  | arrive m slot => [(slot, m)]
  | _ => []

end Happening

namespace Activation

/-- A change that frees an activation for new turns: a turn ends, or the activation finishes
starting. -/
inductive Releases (now : Instant) : Activation → Activation → Prop
  | finish (a : Activation) (id : Nat) : Releases now a (a.resetRunning id now).2
  | ready (a : Activation) : a.state = .activating → Releases now a { a with state := .inactive }

theorem Releases.mailbox {now : Instant} {a b : Activation} (released : Releases now a b) :
    b.mailbox = a.mailbox ∧ b.grainType = a.grainType := by
  cases released with
  | finish id => exact ⟨(a.resetRunning_state id now).2.1, (a.resetRunning_state id now).2.2⟩
  | ready _ => exact ⟨rfl, rfl⟩

end Activation

variable {γ : Type}

/-- What one step does to the turn bookkeeping of the records of a world: `Effect now w w'
starts arrived failed` says that a step at `now` turned `w` into `w'`, started the turns
`starts` (slot and request), took in the requests `arrived`, and failed when `failed`. -/
inductive Effect (now : Instant) (w : World γ) :
    World γ → List (Nat × Message) → List (Nat × Message) → Bool → Prop
  | move {w' : World γ} (failed : Bool) : w.Moves w' → Effect now w w' [] [] failed
  /-- A request starts at once on a record that may take it. -/
  | start {w' : World γ} {slot : Nat} {a : Activation} {m : Message} :
      w.record? slot = some a → a.mayAccept m a.grainType.reentrant = true →
      (w.putRecord slot (a.recordRunning m now)).Moves w' →
      Effect now w w' [(slot, m)] [(slot, m)] false
  /-- A request that may not start waits in the mailbox. -/
  | queue {w' : World γ} {slot : Nat} {a b : Activation} {m : Message} :
      w.record? slot = some a → a.mayAccept m a.grainType.reentrant = false →
      a.enqueue m = .ok b → (w.putRecord slot b).Moves w' → Effect now w w' [] [(slot, m)] false
  /-- A record is released and its mailbox pumped. -/
  | pump {w' : World γ} {slot : Nat} {a b : Activation} :
      w.record? slot = some a → Activation.Releases now a b →
      (w.putRecord slot (b.pump now b.mailbox.length).1).Moves w' →
      Effect now w w' ((b.pump now b.mailbox.length).2.map (slot, ·)) [] false
  /-- A record is released and the step fails before the pump. -/
  | releaseFailed {w' : World γ} {slot : Nat} {a b : Activation} :
      w.record? slot = some a → Activation.Releases now a b → (w.putRecord slot b).Moves w' →
      Effect now w w' [] [] true
  /-- A record that runs nothing and has nothing waiting is made. -/
  | create {w' : World γ} {a : Activation} :
      a.running = none → a.interleaved = [] → a.mailbox = [] → (w.addRecord a).1.Moves w' →
      Effect now w w' [] [] false

namespace SiloM

open Async

/-- From `s` at `now`, code `x` runs to its end or stops before it, and the world it leaves is an
effect on `w` that took in the requests `arrived`. -/
def Reaches (x : SiloM γ Unit) (now : Instant) (s w : World γ) (arrived : List (Nat × Message)) :
    Prop :=
  (∃ w' started, Runs x now s () w' started ∧ Effect now w w' (turnStarts started) arrived false) ∨
    ∃ w' started failure, Halts x now s w' started failure ∧
      Effect now w w' (turnStarts started) arrived failure.isSome

/-- From `w` at `now`, code `x` runs to its end or stops before it, with an effect on `w` that
took in the requests `arrived`. -/
def Steps (x : SiloM γ Unit) (now : Instant) (w : World γ) (arrived : List (Nat × Message)) :
    Prop :=
  Reaches x now w w arrived

theorem Steps.settle {x : SiloM γ Unit} {now : Instant} {w : World γ} {arrived : List (Nat × Message)}
    (steps : Steps x now w arrived) (next : Nat) :
    Effect now w (x.toProgram.settle now next w).world
      (turnStarts (x.toProgram.settle now next w).started) arrived
      (x.toProgram.settle now next w).failure.isSome := by
  rcases steps with ⟨w', started, runs, effect⟩ | ⟨w', started, failure, halts, effect⟩
  · rw [runs.toProgram next]
    exact effect
  · rw [halts.toProgram next]
    exact effect

theorem Moving.steps {ok : Unit → Prop} {x : SiloM γ Unit} (moving : Moving ok x) (now : Instant)
    (w : World γ) : Steps x now w [] := by
  rcases moving now w with ⟨_, w', started, runs, -, moves, starts⟩ |
    ⟨w', started, failure, halts, moves, starts⟩
  · refine .inl ⟨w', started, runs, ?_⟩
    rw [starts]
    exact .move false moves
  · refine .inr ⟨w', started, failure, halts, ?_⟩
    rw [starts]
    exact .move _ moves

theorem Moving.discard {α : Type} {ok : α → Prop} {x : SiloM γ α} (moving : Moving ok x) :
    Moving (fun _ => True) (do let _ ← x : SiloM γ Unit) :=
  moving.bind fun _ _ => moving_pure () trivial

theorem Reaches.after {α : Type} {x : SiloM γ α} {f : α → SiloM γ Unit} {now : Instant}
    {s s₁ w : World γ} {a : α} {arrived : List (Nat × Message)} (pre : Runs x now s a s₁ [])
    (rest : Reaches (f a) now s₁ w arrived) : Reaches (x >>= f) now s w arrived := by
  rcases rest with ⟨w', started, runs, effect⟩ | ⟨w', started, failure, halts, effect⟩
  · exact .inl ⟨w', started, pre.bind runs, effect⟩
  · exact .inr ⟨w', started, failure, pre.bind_halts halts, effect⟩

theorem Steps.after_read {α : Type} {x : SiloM γ α} {f : α → SiloM γ Unit} {now : Instant}
    {w : World γ} {a : α} {arrived : List (Nat × Message)} (read : Runs x now w a w [])
    (rest : Steps (f a) now w arrived) : Steps (x >>= f) now w arrived :=
  Reaches.after read rest

theorem exists_steps_after_read {α : Type} {x : SiloM γ α} {f : α → SiloM γ Unit} {now : Instant}
    {w : World γ} {a : α} {P : List (Nat × Message) → Prop} (read : Runs x now w a w [])
    (rest : ∃ arrived, P arrived ∧ Steps (f a) now w arrived) :
    ∃ arrived, P arrived ∧ Steps (x >>= f) now w arrived :=
  let ⟨arrived, holds, steps⟩ := rest
  ⟨arrived, holds, steps.after_read read⟩

theorem Quiet.reaches {x : SiloM γ Unit} (quiet : Quiet x) {now : Instant} {s w : World γ}
    (moves : w.Moves s) : Reaches x now s w [] := by
  obtain ⟨_, w', started, runs, same, starts⟩ := quiet now s
  refine .inl ⟨w', started, runs, ?_⟩
  rw [starts]
  exact .move false (moves.trans same.moves)

theorem Quiet.steps {x : SiloM γ Unit} (quiet : Quiet x) (now : Instant) (w : World γ) :
    Steps x now w [] :=
  quiet.reaches (World.Moves.refl w)

/-! ## A request arrives -/

theorem receiveRequest_steps (m : Message) (slot : Nat) (now : Instant) (w : World γ) :
    ∃ arrived, arrived.Sublist [(slot, m)] ∧ Steps (receiveRequest m slot) now w arrived := by
  unfold receiveRequest
  refine exists_steps_after_read (runs_record? slot now w) ?_
  rcases found : w.record? slot with _ | a
  · exact ⟨[], List.nil_sublist _, (quiet_pure ()).steps now w⟩
  by_cases invalid : (a.state == .invalid) = true
  · simp only [invalid, if_true]
    exact ⟨[], List.nil_sublist _, ((quiet_redirect _ _ _).bind fun _ => quiet_pure ()).steps now w⟩
  by_cases accepts : a.mayAccept m a.grainType.reentrant = true
  · obtain ⟨w₁, runs, records⟩ := runs_handleIncoming found m now
    simp only [invalid, accepts, if_true, Bool.false_eq_true, if_false]
    refine ⟨[(slot, m)], .refl _, .inl ⟨w₁, _, runs.bind (runs_pure () now w₁), ?_⟩⟩
    rw [List.append_nil, turnStarts_turn]
    exact .start found accepts (World.SameTurns.of_records records).moves
  have refused : a.mayAccept m a.grainType.reentrant = false := by simpa using accepts
  simp only [invalid, refused, Bool.false_eq_true, if_false]
  refine exists_steps_after_read (runs_get now w) ?_
  -- a request that may not start is answered as a deadlock, refused as an overload, or queued
  split
  · exact ⟨[], List.nil_sublist _, ((quiet_replyDeadlock m a).bind fun _ => quiet_pure ()).steps now w⟩
  split
  · exact ⟨[], List.nil_sublist _, (quiet_reject _ _ _).steps now w⟩
  rcases queued : a.enqueue m with _ | b
  · exact ⟨[], List.nil_sublist _, (quiet_pure ()).steps now w⟩
  · refine ⟨[(slot, m)], .refl _, .inl ⟨w.putRecord slot b, [], runs_modify _ now w, ?_⟩⟩
    exact .queue found refused queued (World.Moves.refl _)

/-! ## A record is released -/

theorem runs_scheduleCollection_none {slot : Nat} {w : World γ} (missing : w.record? slot = none)
    (now : Instant) : Runs (scheduleCollection slot : SiloM γ Unit) now w () w [] := by
  unfold scheduleCollection
  refine (runs_record? slot now w).bind ?_
  rw [missing]
  exact runs_pure () now w

theorem runs_messagePump_none {slot : Nat} {w : World γ} (missing : w.record? slot = none)
    (now : Instant) : Runs (messagePump slot : SiloM γ Unit) now w () w [] := by
  unfold messagePump
  refine (runs_record? slot now w).bind ?_
  rw [missing]
  exact runs_pure () now w

theorem quiet_idle (slot : Nat) :
    Quiet (do runIdleActions slot (← takeOnIdle slot) : SiloM γ Unit) :=
  (quiet_takeOnIdle slot).bind (quiet_runIdleActions slot)

theorem reaches_collect_pump {slot : Nat} {a b : Activation} {w : World γ} {now : Instant}
    (found : w.record? slot = some a) (released : Activation.Releases now a b) {rest : SiloM γ Unit}
    (quiet : Quiet rest) :
    Reaches (do scheduleCollection slot; messagePump slot; rest) now (w.putRecord slot b) w [] := by
  have here : (w.putRecord slot b).record? slot = some b := World.record?_putRecord_of_found found b
  rcases scheduleCollection_cases slot now (w.putRecord slot b) with ⟨w₁, scheduled, same₁⟩ | fails
  · obtain ⟨b₁, found₁, kept⟩ := World.Related.found same₁ here
    obtain ⟨w₂, started, pumps, same₂, starts⟩ := runs_messagePump found₁ kept now
    obtain ⟨_, w₃, started', ran, same₃, quietStarts⟩ := quiet now w₂
    refine .inl ⟨w₃, [] ++ (started ++ started'), scheduled.bind (pumps.bind ran), ?_⟩
    rw [List.nil_append, turnStarts_append, starts, quietStarts, List.append_nil]
    -- the pump sees the record as the schedule left it, with the same turns and mailbox
    have relabel := World.Related.putRecord_both Activation.SameTurns.refl same₁ here
      (b.pump now b.mailbox.length).1
    rw [World.putRecord_putRecord] at relabel
    exact .pump found released ((World.SameTurns.trans relabel same₂).trans same₃).moves
  · exact .inr ⟨w.putRecord slot b, [], some ClockOverflow.message, fails.halts.bind,
      .releaseFailed found released (World.Moves.refl _)⟩

theorem onCompletedRequest_steps (slot : Nat) (m : Message) (now : Instant) (w : World γ) :
    Steps (onCompletedRequest slot m) now w [] := by
  unfold onCompletedRequest
  rcases found : w.record? slot with _ | a
  · refine Steps.after_read (runs_changeRecord_none found _ now) ?_
    refine Steps.after_read (runs_scheduleCollection_none found now) ?_
    refine Steps.after_read (runs_messagePump_none found now) ?_
    exact (quiet_idle slot).steps now w
  · exact Reaches.after (runs_changeRecord found _ now)
      (reaches_collect_pump found (.finish a m.id) (quiet_idle slot))

theorem onActivateDeactivateCompleted_steps (slot : Nat) (now : Instant) (w : World γ) :
    Steps (onActivateDeactivateCompleted slot) now w [] := by
  unfold onActivateDeactivateCompleted
  refine Steps.after_read (runs_record? slot now w) ?_
  rcases found : w.record? slot with _ | a
  · exact (quiet_pure ()).steps now w
  dsimp only
  by_cases activating : (a.state == .activating) = true
  · have isActivating : a.state = .activating := by
      revert activating; cases a.state <;> decide
    rw [if_pos activating]
    refine Reaches.after (runs_withRecord found false _ now) ?_
    rcases canMove : a.state.canMoveTo .inactive
    · -- the record cannot move on and stays as it was
      have unchanged : a.setState .inactive = (a, false) := by simp [Activation.setState, canMove]
      simp only [unchanged, Bool.false_eq_true, if_false]
      exact (quiet_idle slot).reaches (World.SameTurns.of_records (World.putRecord_records_self found)).moves
    · have ready : a.setState .inactive = ({ a with state := .inactive }, true) := by
        simp [Activation.setState, canMove]
      simp only [ready, if_true]
      exact reaches_collect_pump found (.ready a isActivating) (quiet_idle slot)
  · rw [if_neg activating]
    exact (quiet_idle slot).steps now w

/-! ## The catalog finds or makes a record -/

theorem moving_rescheduleCollection (slot : Nat) :
    Moving (fun _ => True) (rescheduleCollection slot : SiloM γ Unit) := by
  intro now w
  rcases rescheduleCollection_cases slot now w with ⟨w', runs, same⟩ | fails
  · exact .inl ⟨(), w', [], runs, trivial, same.moves, rfl⟩
  · exact .inr ⟨w, [], _, fails.halts, .refl w, rfl⟩

theorem getOrCreate_steps (target : ActivationAddress) (placement : Option PlacementStrategy)
    (now : Instant) (w : World γ) : Steps (do let _ ← getOrCreate target placement) now w [] := by
  unfold getOrCreate
  rw [Async.bind_assoc]
  refine Steps.after_read (runs_get now w) ?_
  rcases existing : w.findTarget? target.activation with _ | slot
  · rcases placement with _ | p
    · exact (quiet_pure ()).steps now w
    rcases known : w.types.get? target.grain.grainType with _ | t
    · exact (quiet_pure ()).steps now w
    -- a record is made and the task that starts it spawned
    simp only [Async.bind_assoc, Async.pure_bind]
    refine Steps.after_read (runs_now now w) ?_
    refine Reaches.after (runs_update _ now w) ?_
    exact .inl ⟨_, _, runs_spawn_discard _ now _,
      .create (a := Activation.make target t (w.config.limits.forGrain t.statelessWorker)
        (w.ageLimitOf t) now) rfl rfl rfl (World.SameTurns.of_records rfl).moves⟩
  · -- the found record is moved on, unless the placement names an unknown grain type
    have found := (moving_rescheduleCollection slot).discard.steps now w
    rcases placement with _ | p
    · exact found
    rcases known : w.types.get? target.grain.grainType with _ | t
    · exact (quiet_pure ()).steps now w
    · exact found

end SiloM

namespace Happening

variable [Grains γ]

theorem steps (e : Happening) (now : Instant) (w : World γ) :
    ∃ arrived, arrived.Sublist e.arrivals ∧ SiloM.Steps e.code now w arrived := by
  cases e with
  | arrive m slot => exact SiloM.receiveRequest_steps m slot now w
  | complete slot m => exact ⟨[], List.nil_sublist _, SiloM.onCompletedRequest_steps slot m now w⟩
  | activated slot =>
    exact ⟨[], List.nil_sublist _, SiloM.onActivateDeactivateCompleted_steps slot now w⟩
  | failed slot err =>
    exact ⟨[], List.nil_sublist _, (SiloM.moving_onActivationFailed slot err).steps now w⟩
  | create target placement =>
    exact ⟨[], List.nil_sublist _, SiloM.getOrCreate_steps target placement now w⟩
  | init slot => exact ⟨[], List.nil_sublist _, (SiloM.moving_initActivation slot).steps now w⟩
  | beginDestroy slot =>
    exact ⟨[], List.nil_sublist _, (SiloM.moving_beginDestroy slot).discard.steps now w⟩
  | endRecord slot => exact ⟨[], List.nil_sublist _, (SiloM.moving_endRecord slot).steps now w⟩

/-- The step that runs a happening, whatever number its first task gets, has an effect. -/
theorem effect (e : Happening) (now : Instant) (next : Nat) (w : World γ) :
    let r := (e.code : SiloM γ Unit).toProgram.settle now next w
    ∃ arrived, arrived.Sublist e.arrivals ∧
      Effect now w r.world (turnStarts r.started) arrived r.failure.isSome := by
  obtain ⟨arrived, sub, steps⟩ := e.steps now w
  exact ⟨arrived, sub, steps.settle next⟩

end Happening

end ActorSilo
