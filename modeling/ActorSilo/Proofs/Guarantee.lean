import Mathlib.Logic.Relation
import ActorSilo.Executor.Drive

/-! # What every schedule of cooperative tasks keeps

A task runs alone until it waits, yields or ends. `Program.Keeps I G s p` says that `p`, run from
`s`, changes the world only by `G`-steps and goes on from any world `I` admits wherever it may
give up the thread; a `Thread` keeps `G` when the programs it holds do, and an executor's tasks
when each of them does (`Executor.TasksKeep`). Whatever the order in which tasks run, every drive
of the executor then reaches its end by `G`-steps and keeps `I` (`Executor.drive_keeps`).
-/

namespace ActorSilo

variable {σ ε ι : Type}

namespace Program

/-- `p.Keeps I G s`: run from `s`, the program changes the world only by `G`-steps, and it goes
on from any world `I` admits wherever it may give up the thread: at a wait, a yield, a join, a
join, a call, a guard's handler, and in a task it starts. -/
inductive Keeps (I : σ → Prop) (G : σ → σ → Prop) : σ → Program σ ε ι → Prop where
  | done {s : σ} : Keeps I G s .done
  | act {s : σ} {f : σ → σ} {k : Program σ ε ι} :
      G s (f s) → Keeps I G (f s) k → Keeps I G s (.act f k)
  | read {s : σ} {k : Instant → σ → Program σ ε ι} :
      (∀ t, Keeps I G s (k t s)) → Keeps I G s (.read k)
  | await {s : σ} {on : Option (Cond ε)} {ready : σ → Bool} {deadline : Option Instant}
      {spends : Bool} {k : Bool → Program σ ε ι} :
      (∀ s' b, I s' → Keeps I G s' (k b)) → Keeps I G s (.await on ready deadline spends k)
  | spawn {s : σ} {child : Program σ ε ι} {k : Nat → Program σ ε ι} :
      (∀ s', I s' → Keeps I G s' child) → (∀ n, Keeps I G s (k n)) → Keeps I G s (.spawn child k)
  | notify {s : σ} {e : ε} {k : Program σ ε ι} : Keeps I G s k → Keeps I G s (.notify e k)
  | cancel {s : σ} {id : Nat} {k : Program σ ε ι} : Keeps I G s k → Keeps I G s (.cancel id k)
  | yield {s : σ} {k : Program σ ε ι} : (∀ s', I s' → Keeps I G s' k) → Keeps I G s (.yield k)
  | join {s : σ} {cs : List (Program σ ε ι)} {k : Program σ ε ι} :
      (∀ c ∈ cs, ∀ s', I s' → Keeps I G s' c) → (∀ s', I s' → Keeps I G s' k) →
      Keeps I G s (.join cs k)
  | call {s : σ} {j : ι} {k : Program σ ε ι} :
      (∀ s', I s' → Keeps I G s' k) → Keeps I G s (.call j k)
  | panic {s : σ} {why : String} : Keeps I G s (.panic why)
  | guard {s : σ} {body : Program σ ε ι} {onPanic : String → Program σ ε ι} :
      Keeps I G s body → (∀ why s', I s' → Keeps I G s' (onPanic why)) →
      Keeps I G s (.guard body onPanic)
  | unguard {s : σ} {k : Program σ ε ι} : Keeps I G s k → Keeps I G s (.unguard k)

/-- The program keeps `G` from every world `I` admits. -/
def KeepsAlways (I : σ → Prop) (G : σ → σ → Prop) (p : Program σ ε ι) : Prop :=
  ∀ s, I s → p.Keeps I G s

end Program

namespace Thread

open Program

/-- A thread keeps `G` from `s` when the program it stands at does and everything it runs later
keeps `G` from every world `I` admits. -/
inductive Keeps (I : σ → Prop) (G : σ → σ → Prop) : σ → Thread σ ε ι → Prop where
  | line {s : σ} {p : Program σ ε ι} {rest : List (Program σ ε ι)} {timer : Option Nat} :
      p.Keeps I G s → (∀ q ∈ rest, q.KeepsAlways I G) → Keeps I G s (.line p rest timer)
  | held {s : σ} {p : Program σ ε ι} {rest : List (Program σ ε ι)} {timer : Option Nat} :
      p.Keeps I G s → (∀ q ∈ rest, q.KeepsAlways I G) → Keeps I G s (.held p rest timer)
  | fork {s : σ} {cs : List (Thread σ ε ι)} {k : Program σ ε ι} {rest : List (Program σ ε ι)} :
      (∀ c ∈ cs, ∀ s', I s' → Keeps I G s' c) → k.KeepsAlways I G →
      (∀ q ∈ rest, q.KeepsAlways I G) → Keeps I G s (.fork cs k rest)
  | guarded {s : σ} {inner : Thread σ ε ι} {onPanic : String → Program σ ε ι}
      {rest : List (Program σ ε ι)} :
      Keeps I G s inner → (∀ why, (onPanic why).KeepsAlways I G) →
      (∀ q ∈ rest, q.KeepsAlways I G) → Keeps I G s (.guarded inner onPanic rest)
  | ended {s : σ} : Keeps I G s .ended

/-- The thread keeps `G` from every world `I` admits, as a thread that waits does. -/
def KeepsAlways (I : σ → Prop) (G : σ → σ → Prop) (th : Thread σ ε ι) : Prop :=
  ∀ s, I s → th.Keeps I G s

end Thread

namespace Executor

/-! ## Bookkeeping that leaves the world and the threads alone -/

/-- Two executors hold the same world, tasks and main program, and number new tasks alike. -/
structure Frame (x x' : Executor σ ε ι) : Prop where
  world : x'.world = x.world
  tasks : x'.tasks = x.tasks
  main : x'.main = x.main
  nextTask : x'.nextTask = x.nextTask

theorem Frame.refl (x : Executor σ ε ι) : Frame x x := ⟨rfl, rfl, rfl, rfl⟩

theorem Frame.trans {x y z : Executor σ ε ι} (first : Frame x y) (second : Frame y z) :
    Frame x z :=
  ⟨second.world.trans first.world, second.tasks.trans first.tasks, second.main.trans first.main,
    second.nextTask.trans first.nextTask⟩

theorem frame_foldl {α : Type} (f : Executor σ ε ι → α → Executor σ ε ι)
    (each : ∀ x a, Frame x (f x a)) : ∀ (l : List α) (x : Executor σ ε ι), Frame x (l.foldl f x)
  | [], x => .refl x
  | a :: l, x => (each x a).trans (frame_foldl f each l (f x a))

theorem frame_enqueue (x : Executor σ ε ι) (id : Nat) : Frame x (x.enqueue id) := by
  unfold enqueue
  split
  · exact .refl x
  · exact ⟨rfl, rfl, rfl, rfl⟩

theorem frame_wakeOwner (x : Executor σ ε ι) (who : Owner) : Frame x (x.wakeOwner who) := by
  cases who with
  | main => exact ⟨rfl, rfl, rfl, rfl⟩
  | task id =>
    show Frame x (if x.live id then x.enqueue id else x)
    split
    · exact frame_enqueue x id
    · exact .refl x

section Wake

variable [BEq ε]

theorem frame_wake (x : Executor σ ε ι) (c : Cond ε) : Frame x (x.wake c) := by
  unfold wake
  refine Frame.trans ?_ (frame_foldl _ (fun y e => ?_) _ _)
  · split
    · split
      · exact ⟨rfl, rfl, rfl, rfl⟩
      · exact .refl x
    · split
      · exact ⟨rfl, rfl, rfl, rfl⟩
      · exact .refl x
  · dsimp only
    split
    · split
      · exact ⟨rfl, rfl, rfl, rfl⟩
      · exact .refl y
    · split
      · exact (frame_enqueue y _).trans ⟨rfl, rfl, rfl, rfl⟩
      · exact .refl y

theorem frame_register (x : Executor σ ε ι) (on : Option (Cond ε)) : Frame x (x.register on) := by
  cases on with
  | none => exact .refl x
  | some c =>
    show Frame x (if x.runningWaits.contains c then x else { x with runningWaits := x.runningWaits ++ [c] })
    split
    · exact .refl x
    · exact ⟨rfl, rfl, rfl, rfl⟩

end Wake

theorem frame_dropTimer (x : Executor σ ε ι) (timer : Option Nat) : Frame x (x.dropTimer timer) := by
  cases timer with
  | none => exact .refl x
  | some _ => exact ⟨rfl, rfl, rfl, rfl⟩

theorem frame_addTimer (x : Executor σ ε ι) (tick : Nat) (who : Owner) :
    Frame x (x.addTimer tick who).1 :=
  ⟨rfl, rfl, rfl, rfl⟩

theorem frame_wakeDeferred (x : Executor σ ε ι) : Frame x x.wakeDeferred := by
  unfold wakeDeferred
  refine Frame.trans ?_ (frame_foldl _ frame_wakeOwner _ _)
  exact ⟨rfl, rfl, rfl, rfl⟩

theorem frame_fireDue (x : Executor σ ε ι) : Frame x x.fireDue := by
  unfold fireDue
  refine Frame.trans ?_ (frame_foldl _ (fun y (t : Timer) => frame_wakeOwner y t.owner) _ _)
  exact ⟨rfl, rfl, rfl, rfl⟩

theorem frame_parkYield (x : Executor σ ε ι) : Frame x x.parkYield :=
  (frame_fireDue x).trans (frame_wakeDeferred _)

theorem frame_park (x : Executor σ ε ι) {x' : Executor σ ε ι} (parked : x.park = some x') :
    Frame x x' := by
  unfold park at parked
  split at parked
  · cases parked
  · cases parked
    refine Frame.trans ?_ (frame_parkYield _)
    split
    · exact ⟨rfl, rfl, rfl, rfl⟩
    · exact .refl x

/-! ## Tasks that keep a guarantee -/

variable {I : σ → Prop} {G : σ → σ → Prop}

/-- Every task's thread keeps `G` from every world `I` admits. -/
def TasksKeep (I : σ → Prop) (G : σ → σ → Prop) (x : Executor σ ε ι) : Prop :=
  ∀ e ∈ x.tasks, e.2.KeepsAlways I G

theorem Frame.tasksKeep {x x' : Executor σ ε ι} (frame : Frame x x') (keep : x.TasksKeep I G) :
    x'.TasksKeep I G := by
  intro e member
  rw [frame.tasks] at member
  exact keep e member

theorem TasksKeep.filter {x : Executor σ ε ι} (keep : x.TasksKeep I G) (p : Nat × Thread σ ε ι → Bool)
    {x' : Executor σ ε ι} (tasks : x'.tasks = x.tasks.filter p) : x'.TasksKeep I G := by
  intro e member
  rw [tasks] at member
  exact keep e (List.mem_filter.mp member).1

section Tasks

variable [BEq ε]

theorem TasksKeep.endTask {x : Executor σ ε ι} (keep : x.TasksKeep I G) (id : Nat) :
    (x.endTask id).TasksKeep I G := by
  unfold Executor.endTask
  exact (frame_wake _ _).tasksKeep (keep.filter _ rfl)

theorem TasksKeep.cancelTask {x : Executor σ ε ι} (keep : x.TasksKeep I G) (id : Nat) :
    (x.cancelTask id).TasksKeep I G := by
  unfold Executor.cancelTask
  split
  · exact keep
  · split
    · exact keep.endTask id
    · exact keep

end Tasks

theorem TasksKeep.addTask {x : Executor σ ε ι} (keep : x.TasksKeep I G) {p : Program σ ε ι}
    (child : p.KeepsAlways I G) : (x.addTask p).1.TasksKeep I G := by
  intro e member
  rcases List.mem_append.mp member with old | new
  · exact keep e old
  · rw [List.mem_singleton.mp new]
    exact fun s holds => .line (child s holds) (by simp)

/-- From `x` to `x'` the world moved by `G`-steps to a world `I` admits, every task still keeps
`G`, and the main program is the one of `x`. -/
structure Moved (I : σ → Prop) (G : σ → σ → Prop) (x x' : Executor σ ε ι) : Prop where
  steps : Relation.ReflTransGen G x.world x'.world
  inv : I x'.world
  tasks : x'.TasksKeep I G
  main : x'.main = x.main

theorem Moved.refl {x : Executor σ ε ι} (holds : I x.world) (keep : x.TasksKeep I G) :
    Moved I G x x :=
  ⟨.refl, holds, keep, rfl⟩

theorem Moved.trans {x y z : Executor σ ε ι} (first : Moved I G x y) (second : Moved I G y z) :
    Moved I G x z :=
  ⟨first.steps.trans second.steps, second.inv, second.tasks, second.main.trans first.main⟩

theorem Moved.frame {x y z : Executor σ ε ι} (moved : Moved I G x y) (frame : Frame y z) :
    Moved I G x z :=
  ⟨frame.world ▸ moved.steps, frame.world ▸ moved.inv, frame.tasksKeep moved.tasks,
    frame.main.trans moved.main⟩

/-- From `x` to `x'` the world moved by `G`-steps to a world `I` admits, and every task still keeps
`G`: what a whole drive keeps. -/
structure Reached (I : σ → Prop) (G : σ → σ → Prop) (x x' : Executor σ ε ι) : Prop where
  steps : Relation.ReflTransGen G x.world x'.world
  inv : I x'.world
  tasks : x'.TasksKeep I G

theorem Moved.of_frame {x x' : Executor σ ε ι} (holds : I x.world) (keep : x.TasksKeep I G)
    (frame : Frame x x') : Moved I G x x' :=
  (Moved.refl holds keep).frame frame

/-! ## Running a thread -/

/-- What a run of a thread from `x` leaves in `x'`: the world moved by `G`-steps, and the thread
`th` it stopped at keeps `G` there, and from every world `I` admits unless the run ran out of fuel
in the middle of a stretch or stopped at the end of a guard, where its owner goes on at once. -/
structure Ran (I : σ → Prop) (G : σ → σ → Prop) (x x' : Executor σ ε ι) (th : Thread σ ε ι)
    (st : Poll) : Prop where
  moved : Moved I G x x'
  here : th.Keeps I G x'.world
  resumable : st ≠ .exhausted → st ≠ .unguarded → th.KeepsAlways I G

theorem Ran.after {x y z : Executor σ ε ι} {th : Thread σ ε ι} {st : Poll} (first : Moved I G x y)
    (ran : Ran I G y z th st) : Ran I G x z th st :=
  ⟨first.trans ran.moved, ran.here, ran.resumable⟩

theorem Ran.stop {x x' : Executor σ ε ι} {th : Thread σ ε ι} {st : Poll} (moved : Moved I G x x')
    (always : th.KeepsAlways I G) : Ran I G x x' th st :=
  ⟨moved, always _ moved.inv, fun _ _ => always⟩

theorem foldl_invariant_mem {α β : Type} (P : β → Prop) (f : β → α → β) :
    ∀ (l : List α) (b : β), P b → (∀ b a, a ∈ l → P b → P (f b a)) → P (l.foldl f b)
  | [], _, holds, _ => holds
  | a :: l, b, holds, step =>
    foldl_invariant_mem P f l (f b a) (step b a (List.mem_cons_self ..) holds)
      fun b' a' member => step b' a' (List.mem_cons_of_mem a member)

section Run

variable [BEq ε] {expand : ι → Program σ ε ι}

theorem endTask_world (x : Executor σ ε ι) (id : Nat) :
    (x.endTask id).world = x.world ∧ (x.endTask id).main = x.main := by
  unfold Executor.endTask
  exact ⟨(frame_wake _ _).world, (frame_wake _ _).main⟩

theorem cancelTask_world (x : Executor σ ε ι) (id : Nat) :
    (x.cancelTask id).world = x.world ∧ (x.cancelTask id).main = x.main := by
  unfold Executor.cancelTask
  split
  · exact ⟨rfl, rfl⟩
  · split
    · exact endTask_world x id
    · exact ⟨rfl, rfl⟩

theorem Moved.endTask {x : Executor σ ε ι} (holds : I x.world) (keep : x.TasksKeep I G)
    (id : Nat) : Moved I G x (x.endTask id) :=
  ⟨(endTask_world x id).1 ▸ .refl, (endTask_world x id).1 ▸ holds, keep.endTask id,
    (endTask_world x id).2⟩

theorem Moved.cancelTask {x : Executor σ ε ι} (holds : I x.world) (keep : x.TasksKeep I G)
    (id : Nat) : Moved I G x (x.cancelTask id) :=
  ⟨(cancelTask_world x id).1 ▸ .refl, (cancelTask_world x id).1 ▸ holds, keep.cancelTask id,
    (cancelTask_world x id).2⟩

theorem runThread_await (fuel : Nat) (who : Owner) (x : Executor σ ε ι) (on : Option (Cond ε))
    (ready : σ → Bool) (deadline : Option Instant) (spends : Bool) (k : Bool → Program σ ε ι)
    (rest : List (Program σ ε ι)) (timer : Option Nat) :
    ∃ y, Frame x y ∧
      ((∃ b, runThread expand fuel who y (.line (k b) rest none) =
          runThread expand (fuel + 1) who x (.line (.await on ready deadline spends k) rest timer)) ∨
        (runThread expand (fuel + 1) who x (.line (.await on ready deadline spends k) rest timer) =
          (y, .held (.await on ready deadline spends k) rest timer, .pending)) ∨
        ∃ timer', runThread expand (fuel + 1) who x (.line (.await on ready deadline spends k) rest timer) =
          (y, .line (.await on ready deadline spends k) rest timer', .pending)) := by
  rw [runThread.eq_def]
  -- what it waits for decides only whether it is ready; past that the three kinds of wait agree
  rcases on with _ | _ | _ <;> dsimp only
  all_goals
    split
    · -- ready: it goes on unless it has spent its budget
      split
      · exact ⟨_, frame_dropTimer x timer, .inl ⟨true, rfl⟩⟩
      · split
        · exact ⟨{ x with deferred := x.deferred ++ [who] }, ⟨rfl, rfl, rfl, rfl⟩, .inr (.inl rfl)⟩
        · exact ⟨{ x.dropTimer timer with spent := x.spent + 1 },
            (frame_dropTimer x timer).trans ⟨rfl, rfl, rfl, rfl⟩, .inl ⟨true, rfl⟩⟩
    · -- not ready: it waits, unless its deadline has passed
      split
      · exact ⟨_, frame_register x _, .inr (.inr ⟨_, rfl⟩)⟩
      · split
        · exact ⟨_, frame_register x _, .inr (.inr ⟨_, rfl⟩)⟩
        · split
          · exact ⟨{ x with deferred := x.deferred ++ [who] }, ⟨rfl, rfl, rfl, rfl⟩, .inr (.inl rfl)⟩
          · exact ⟨{ x.dropTimer _ with spent := x.spent + 1 },
              (frame_dropTimer x _).trans ⟨rfl, rfl, rfl, rfl⟩, .inl ⟨false, rfl⟩⟩
      · split
        · split
          · exact ⟨{ x with deferred := x.deferred ++ [who] }, ⟨rfl, rfl, rfl, rfl⟩, .inr (.inl rfl)⟩
          · exact ⟨{ x with spent := x.spent + 1 }, ⟨rfl, rfl, rfl, rfl⟩, .inl ⟨false, rfl⟩⟩
        · exact ⟨_, (frame_addTimer x _ who).trans (frame_register _ _), .inr (.inr ⟨_, rfl⟩)⟩

variable (I G expand) in
/-- Runs of `fuel` steps keep `G`: the statement `runThread_keeps` proves by induction on fuel. -/
def RunKeeps (fuel : Nat) : Prop :=
  ∀ (who : Owner) (x : Executor σ ε ι) (th : Thread σ ε ι),
    I x.world → x.TasksKeep I G → th.Keeps I G x.world →
    ∀ x' th' st, runThread expand fuel who x th = (x', th', st) → Ran I G x x' th' st

theorem RunKeeps.resume {fuel : Nat} (ih : RunKeeps I G expand fuel) {who : Owner}
    {x y x' : Executor σ ε ι} {th th' : Thread σ ε ι} {st : Poll} (moved : Moved I G x y)
    (keeps : th.Keeps I G y.world) (run : runThread expand fuel who y th = (x', th', st)) :
    Ran I G x x' th' st :=
  (ih who y th moved.inv moved.tasks keeps x' th' st run).after moved


theorem runKeeps_fork {fuel : Nat} (ih : RunKeeps I G expand fuel) {who : Owner}
    {x x' : Executor σ ε ι} {cs : List (Thread σ ε ι)} {k : Program σ ε ι}
    {rest : List (Program σ ε ι)} {th' : Thread σ ε ι} {st : Poll} (holds : I x.world)
    (keep : x.TasksKeep I G) (hcs : ∀ c ∈ cs, c.KeepsAlways I G) (hk : k.KeepsAlways I G)
    (hrest : ∀ q ∈ rest, q.KeepsAlways I G)
    (run : runThread expand (fuel + 1) who x (.fork cs k rest) = (x', th', st)) :
    Ran I G x x' th' st := by
  rw [runThread] at run
  generalize hr : List.foldl _ (x, [], none) cs = r at run
  -- the invariant of the fold: the world moved by `G`-steps, and while no child has failed, every
  -- child visited so far can be resumed
  have visited : Moved I G x r.1 ∧ (r.2.2 = none → ∀ c ∈ r.2.1, c.KeepsAlways I G) := by
    rw [← hr]
    refine foldl_invariant_mem (fun acc : Executor σ ε ι × List (Thread σ ε ι) × Option String =>
      Moved I G x acc.1 ∧
      (acc.2.2 = none → ∀ c ∈ acc.2.1, c.KeepsAlways I G)) _ cs _
      ⟨.refl holds keep, fun _ c member => absurd member List.not_mem_nil⟩ ?_
    rintro ⟨y, done, err⟩ c listed ⟨moved, kept⟩
    cases err with
    | some why => exact ⟨moved, fun failed => nomatch failed⟩
    | none =>
      dsimp only
      generalize hc : runThread expand fuel who y c = out
      obtain ⟨y', c', st'⟩ := out
      have ran := (ih who y c moved.inv moved.tasks (hcs c listed _ moved.inv) _ _ _ hc).after moved
      have more : ∀ d ∈ done ++ [c'], st' ≠ .exhausted → st' ≠ .unguarded → d.KeepsAlways I G := by
        intro d member going inside
        rcases List.mem_append.mp member with old | new
        · exact kept rfl d old
        · exact List.mem_singleton.mp new ▸ ran.resumable going inside
      cases st' with
      | failed why => exact ⟨ran.moved, fun failed => nomatch failed⟩
      | unguarded => exact ⟨ran.moved, fun failed => nomatch failed⟩
      | exhausted => exact ⟨ran.moved, fun failed => nomatch failed⟩
      | pending => exact ⟨ran.moved, fun _ d member => more d member (by simp) (by simp)⟩
      | ended => exact ⟨ran.moved, fun _ d member => more d member (by simp) (by simp)⟩
  obtain ⟨y, done, err⟩ := r
  cases err with
  | some why =>
    cases run
    exact .stop visited.1 fun _ _ => .ended
  | none =>
    dsimp only at run
    split at run
    · exact ih.resume visited.1 (.line (hk _ visited.1.inv) hrest) run
    · cases run
      exact .stop visited.1 fun _ _ => .fork (fun c member => visited.2 rfl c member) hk hrest

theorem runKeeps_guarded {fuel : Nat} (ih : RunKeeps I G expand fuel) {who : Owner}
    {x x' : Executor σ ε ι} {inner : Thread σ ε ι} {onPanic : String → Program σ ε ι}
    {rest : List (Program σ ε ι)} {th' : Thread σ ε ι} {st : Poll} (holds : I x.world)
    (keep : x.TasksKeep I G) (hinner : inner.Keeps I G x.world)
    (hpanic : ∀ why, (onPanic why).KeepsAlways I G) (hrest : ∀ q ∈ rest, q.KeepsAlways I G)
    (run : runThread expand (fuel + 1) who x (.guarded inner onPanic rest) = (x', th', st)) :
    Ran I G x x' th' st := by
  rw [runThread] at run
  generalize hin : runThread expand fuel who x inner = out at run
  obtain ⟨y, inner', st'⟩ := out
  have ran := ih who x inner holds keep hinner _ _ _ hin
  dsimp only at run
  -- one case for each way the body can stop
  split at run
  · cases run
    exact ⟨ran.moved, .guarded ran.here hpanic hrest,
      fun _ _ s holds' => .guarded (ran.resumable (by simp) (by simp) s holds') hpanic hrest⟩
  · exact ih.resume ran.moved (.line .done hrest) run
  · exact ih.resume ran.moved (.line (hpanic _ _ ran.moved.inv) hrest) run
  · -- the body stands at the end of the guard: what follows it runs before the rest
    obtain ⟨hu, hmore⟩ : (Program.unguard _).Keeps I G y.world ∧ _ := by
      cases ran.here with
      | line hu hmore => exact ⟨hu, hmore⟩
    cases hu with
    | unguard hk =>
      refine ih.resume ran.moved (.line hk ?_) run
      exact fun q member => (List.mem_append.mp member).elim (hmore q) (hrest q)
  · cases run
    exact .stop ran.moved fun _ _ => .ended
  · cases run
    exact ⟨ran.moved, .guarded ran.here hpanic hrest, fun ne => absurd rfl ne⟩

variable (procs : ∀ j, (expand j).KeepsAlways I G) (stable : ∀ s s', I s → G s s' → I s')
include procs stable

theorem runKeeps_line {fuel : Nat} (ih : RunKeeps I G expand fuel) {who : Owner}
    {x x' : Executor σ ε ι} {p : Program σ ε ι} {rest : List (Program σ ε ι)} {timer : Option Nat}
    {th' : Thread σ ε ι} {st : Poll} (holds : I x.world) (keep : x.TasksKeep I G)
    (hp : p.Keeps I G x.world) (hrest : ∀ q ∈ rest, q.KeepsAlways I G)
    (run : runThread expand (fuel + 1) who x (.line p rest timer) = (x', th', st)) :
    Ran I G x x' th' st := by
  have stay : Moved I G x x := .refl holds keep
  cases hp with
  | done =>
    cases rest with
    | nil =>
      rw [runThread] at run
      cases run
      exact .stop stay fun _ _ => .ended
    | cons q rest =>
      rw [runThread] at run
      exact ih.resume stay (.line (hrest q (.head _) _ holds) fun q' member => hrest q' (.tail _ member)) run
  | act step hk =>
    rw [runThread] at run
    have moved : Moved I G x { x with world := _ } := ⟨.single step, stable _ _ holds step, keep, rfl⟩
    exact ih.resume moved (.line hk hrest) run
  | read hk =>
    rw [runThread] at run
    exact ih.resume stay (.line (hk _) hrest) run
  | @await _ on ready deadline spends k hk =>
    -- the wait itself keeps `G` from every world, so wherever it stops it can be resumed
    obtain ⟨y, frame, next | held | waiting⟩ := @runThread_await _ _ _ _ expand fuel who x on ready
      deadline spends k rest timer
    · obtain ⟨b, next⟩ := next
      have moved := Moved.of_frame holds keep frame
      exact ih.resume moved (.line (hk _ b moved.inv) hrest) (next.trans run)
    · rw [held] at run
      cases run
      exact .stop (.of_frame holds keep frame) fun s _ => .held (.await hk) hrest
    · obtain ⟨timer', waiting⟩ := waiting
      rw [waiting] at run
      cases run
      exact .stop (.of_frame holds keep frame) fun s _ => .line (.await hk) hrest
  | spawn child hk =>
    rw [runThread] at run
    have moved : Moved I G x (x.addTask _).1 := ⟨.refl, holds, keep.addTask child, rfl⟩
    exact ih.resume moved (.line (hk _) hrest) run
  | notify hk =>
    rw [runThread] at run
    exact ih.resume (.of_frame holds keep (frame_wake x _)) (.line ((frame_wake x _).world ▸ hk) hrest) run
  | @cancel _ id _ hk =>
    rw [runThread] at run
    have moved := Moved.cancelTask holds keep id
    exact ih.resume moved (.line ((cancelTask_world x _).1 ▸ hk) hrest) run
  | yield hk =>
    rw [runThread] at run
    cases run
    exact .stop (.of_frame holds keep ⟨rfl, rfl, rfl, rfl⟩) fun s holds' => .held (hk s holds') hrest
  | join hcs hk =>
    rw [runThread] at run
    refine ih.resume stay (.fork ?_ hk hrest) run
    intro c member s holds'
    obtain ⟨p, listed, rfl⟩ := List.mem_map.mp member
    exact .line (hcs p listed s holds') (by simp)
  | @call _ j k hk =>
    rw [runThread.eq_def] at run
    dsimp only at run
    -- a call runs the procedure's body, then its continuation unless there is none
    refine ih.resume stay (.line (procs j _ holds) ?_) run
    split
    · exact hrest
    · exact List.forall_mem_cons.mpr ⟨hk, hrest⟩
  | panic =>
    rw [runThread] at run
    cases run
    exact .stop stay fun _ _ => .ended
  | guard hbody hpanic =>
    rw [runThread] at run
    exact ih.resume stay (.guarded (.line hbody (by simp)) hpanic hrest) run
  | unguard hk =>
    rw [runThread] at run
    cases run
    exact ⟨stay, .line (.unguard hk) hrest, fun _ inside => absurd rfl inside⟩

theorem runThread_keeps (fuel : Nat) : RunKeeps I G expand fuel := by
  induction fuel with
  | zero =>
    intro who x th holds keep here x' th' st run
    rw [runThread] at run
    cases run
    exact ⟨.refl holds keep, here, fun ne => absurd rfl ne⟩
  | succ fuel ih =>
    intro who x th holds keep here x' th' st run
    cases here with
    | line hp hrest => exact runKeeps_line procs stable ih holds keep hp hrest run
    | held hp hrest =>
      rw [runThread] at run
      exact ih who x _ holds keep (.line hp hrest) x' th' st run
    | fork hcs hk hrest => exact runKeeps_fork ih holds keep hcs hk hrest run
    | guarded hinner hpanic hrest =>
      exact runKeeps_guarded ih holds keep hinner hpanic hrest run
    | ended =>
      rw [runThread] at run
      cases run
      exact .stop (.refl holds keep) fun _ _ => .ended

theorem runTask_keeps (fuel : Nat) {x : Executor σ ε ι} (holds : I x.world) (keep : x.TasksKeep I G)
    (id : Nat) : Moved I G x (runTask expand fuel x id) := by
  unfold runTask
  split
  · exact .refl holds keep
  · rename_i j th found
    have kept : th.KeepsAlways I G := keep _ (List.mem_of_find?_eq_some found)
    dsimp only
    generalize hr : runThread expand fuel (.task id) _ th = r
    obtain ⟨y, th', st⟩ := r
    dsimp only
    have enter : Moved I G x { x.enter (.task id) th with rewake := false, doomed := false } :=
      .of_frame holds keep ⟨rfl, rfl, rfl, rfl⟩
    have ran := (runThread_keeps procs stable fuel _ _ th enter.inv enter.tasks (kept _ enter.inv)
      _ _ _ hr).after enter
    -- the executor after the run, with nothing running any more
    have after : Moved I G x { y with running := none } := ran.moved.frame ⟨rfl, rfl, rfl, rfl⟩
    split
    · split
      · exact after.trans (.endTask after.inv after.tasks id)
      · -- the task waits: its thread goes back into its place
        have replaced : Moved I G x
            { y with running := none, tasks := y.tasks.map fun e => if e.1 == id then (e.1, th') else e } := by
          refine ⟨after.steps, after.inv, ?_, after.main⟩
          intro e member
          obtain ⟨e', listed, rfl⟩ := List.mem_map.mp member
          split
          · exact ran.resumable (by simp) (by simp)
          · exact ran.moved.tasks _ listed
        split
        · exact replaced.frame (frame_enqueue _ id)
        · exact replaced
    · -- it ended, failed or ran out: it is dropped
      exact after.trans (.endTask after.inv after.tasks id)

theorem runMain_keeps (fuel : Nat) {x x' : Executor σ ε ι} {st : Poll} (holds : I x.world)
    (keep : x.TasksKeep I G) (main : x.main.KeepsAlways I G)
    (run : runMain expand fuel x = (x', st)) :
    Reached I G x x' ∧ (st = .pending → x'.main.KeepsAlways I G) := by
  unfold runMain at run
  dsimp only at run
  generalize hr : runThread expand fuel .main _ _ = r at run
  obtain ⟨y, th, st'⟩ := r
  have enter : Moved I G x { x.enter .main x.main with mainWoken := false, spent := x.mainSpent } :=
    .of_frame holds keep ⟨rfl, rfl, rfl, rfl⟩
  have ran := (runThread_keeps procs stable fuel _ _ _ enter.inv enter.tasks (main _ enter.inv)
    _ _ _ hr).after enter
  cases run
  exact ⟨⟨ran.moved.steps, ran.moved.inv, ran.moved.tasks⟩,
    fun waits => by
      obtain rfl : st' = .pending := waits
      exact ran.resumable (by simp) (by simp)⟩

theorem runBatch_keeps (fuel : Nat) :
    ∀ (n : Nat) (x : Executor σ ε ι), I x.world → x.TasksKeep I G →
      Moved I G x (runBatch expand fuel n x).1
  | 0, x, holds, keep => .refl holds keep
  | n + 1, x, holds, keep => by
    unfold runBatch
    split
    · exact .refl holds keep
    · rename_i id rest _
      have dequeued : Moved I G x { x with queue := rest } := .of_frame holds keep ⟨rfl, rfl, rfl, rfl⟩
      have ran := dequeued.trans (runTask_keeps procs stable fuel dequeued.inv dequeued.tasks id)
      exact ran.trans (runBatch_keeps fuel n _ ran.inv ran.tasks)

theorem drive_keeps (steps : Nat) :
    ∀ (rounds : Nat) (x : Executor σ ε ι), I x.world → x.TasksKeep I G → x.main.KeepsAlways I G →
      ∀ x' out, drive expand steps rounds x = (x', out) → Reached I G x x'
  | 0, x, holds, keep, _, x', out, run => by
    rw [drive] at run
    cases run
    exact ⟨.refl, holds, keep⟩
  | rounds + 1, x, holds, keep, main, x', out, run => by
    rw [drive] at run
    generalize hm : (if x.mainWoken then runMain expand steps x else (x, .pending)) = m at run
    obtain ⟨y, st⟩ := m
    -- the main program, if it was woken: the world moved, and it waits again unless it is over
    have first : Reached I G x y ∧ (st = .pending → y.main.KeepsAlways I G) := by
      split at hm
      · exact runMain_keeps procs stable steps holds keep main hm
      · cases hm
        exact ⟨⟨.refl, holds, keep⟩, fun _ => main⟩
    obtain ⟨reached, waits⟩ := first
    dsimp only at run
    split at run
    · cases run
      exact reached
    · cases run
      exact reached
    · cases run
      exact reached
    · cases run
      exact reached
    · -- a batch of tasks, then time passes or the deferred tasks are woken, and the next round
      have batch := runBatch_keeps procs stable steps batchSize y reached.inv reached.tasks
      have resumes : (runBatch expand steps batchSize y).1.main.KeepsAlways I G :=
        batch.main ▸ waits rfl
      have thus : Reached I G x (runBatch expand steps batchSize y).1 :=
        ⟨reached.steps.trans batch.steps, batch.inv, batch.tasks⟩
      split at run
      · split at run
        · rename_i z parked
          have frame := frame_park _ parked
          have next := drive_keeps steps rounds z (frame.world ▸ thus.inv) (frame.tasksKeep thus.tasks)
            (frame.main ▸ resumes) x' out run
          exact ⟨thus.steps.trans (frame.world ▸ next.steps), next.inv, next.tasks⟩
        · cases run
          exact thus
      · have frame := frame_parkYield (runBatch expand steps batchSize y).1
        have next := drive_keeps steps rounds _ (frame.world ▸ thus.inv) (frame.tasksKeep thus.tasks)
          (frame.main ▸ resumes) x' out run
        exact ⟨thus.steps.trans (frame.world ▸ next.steps), next.inv, next.tasks⟩

end Run

end Executor

end ActorSilo
