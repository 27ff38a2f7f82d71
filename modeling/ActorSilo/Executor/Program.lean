import ActorSilo.Duration

/-! # Cooperative programs

A task is a `Program`: a tree of actions on a shared world `σ`, separated by the points at which
it may give up the thread, so every action between two such points is atomic. A task gives up
the thread only to wait for an event `ε`, another task, an instant, or to yield; named procedures
`ι` are expanded only when reached. `Async` is the continuation monad over programs.
-/

namespace ActorSilo

/-- What a waiting program waits for, besides its deadline. -/
inductive Cond (ε : Type) where
  /-- An event of the world, announced with `notify`. -/
  | event (e : ε)
  | task (id : Nat)
  deriving BEq, Repr

/-- A cooperative program over a world `σ`, with events `ε` and named procedures `ι`. -/
inductive Program (σ ε ι : Type) where
  | done
  | act (f : σ → σ) (k : Program σ ε ι)
  /-- Reads the world and the clock, and goes on according to them. -/
  | read (k : Instant → σ → Program σ ε ι)
  /-- Waits until `ready` holds of the world (or the awaited task ended), or until the
  deadline passes; goes on with `true` in the first case and `false` in the second.
  Ending because the deadline passed spends a unit of the run's budget, and so does
  ending ready when `spends` is set. -/
  | await (on : Option (Cond ε)) (ready : σ → Bool) (deadline : Option Instant) (spends : Bool)
      (k : Bool → Program σ ε ι)
  /-- Starts a new task, which runs once the thread is free; goes on with its number. -/
  | spawn (child : Program σ ε ι) (k : Nat → Program σ ε ι)
  /-- Wakes the tasks that wait for an event. -/
  | notify (e : ε) (k : Program σ ε ι)
  | cancel (id : Nat) (k : Program σ ε ι)
  /-- Lets the other tasks run before going on. -/
  | yield (k : Program σ ε ι)
  /-- Runs the programs side by side within this task, then goes on. -/
  | join (children : List (Program σ ε ι)) (k : Program σ ε ι)
  /-- Runs a named procedure, then goes on. -/
  | call (proc : ι) (k : Program σ ε ι)
  | panic (why : String)
  /-- Runs `body`, which leaves the guard with `unguard`; if it fails before that, goes on
  with `onPanic` and the reason instead. -/
  | guard (body : Program σ ε ι) (onPanic : String → Program σ ε ι)
  /-- Leaves the innermost guard, then goes on. -/
  | unguard (k : Program σ ε ι)

/-- Code with a result of type `α`, written by its continuation. -/
def Async (σ ε ι α : Type) : Type := (α → Program σ ε ι) → Program σ ε ι

namespace Async

variable {σ ε ι : Type}

instance : Monad (Async σ ε ι) where
  pure a := fun k => k a
  bind x f := fun k => x (fun a => f a k)

/-- The program that runs `x` and stops. -/
def toProgram (x : Async σ ε ι Unit) : Program σ ε ι := x (fun _ => .done)

def get : Async σ ε ι σ := fun k => .read fun _ s => k s

def now : Async σ ε ι Instant := fun k => .read fun t _ => k t

def modify (f : σ → σ) : Async σ ε ι Unit := fun k => .act f (k ())

def modifyAt (f : Instant → σ → σ) : Async σ ε ι Unit :=
  fun k => .read fun t s => .act (fun _ => f t s) (k ())

/-- Changes the world and reads a result off the change, in one action. -/
def update {α : Type} (f : Instant → σ → σ × α) : Async σ ε ι α :=
  fun k => .read fun t s => let (s', a) := f t s; .act (fun _ => s') (k a)

/-- Waits until `ready` holds, announced by the event `e`. -/
def waitFor (e : ε) (ready : σ → Bool) : Async σ ε ι Unit :=
  fun k => .await (some (.event e)) ready none false fun _ => k ()

/-- Waits until `ready` holds, announced by `e`, to take something from a channel:
taking it spends a unit of the run's budget. -/
def waitToTake (e : ε) (ready : σ → Bool) : Async σ ε ι Unit :=
  fun k => .await (some (.event e)) ready none true fun _ => k ()

/-- Waits until `ready` holds, announced by `e`, or until `deadline`: true when ready. -/
def waitUntil (e : ε) (ready : σ → Bool) (deadline : Instant) : Async σ ε ι Bool :=
  fun k => .await (some (.event e)) ready (some deadline) false k

def joinTask (id : Nat) : Async σ ε ι Unit :=
  fun k => .await (some (.task id)) (fun _ => false) none true fun _ => k ()

/-- Waits for a task to end, or until `deadline`: true when it ended. -/
def joinTaskUntil (id : Nat) (deadline : Instant) : Async σ ε ι Bool :=
  fun k => .await (some (.task id)) (fun _ => false) (some deadline) true k

/-- Waits until the clock reaches `deadline`. -/
def sleepUntil (deadline : Instant) : Async σ ε ι Unit :=
  fun k => .await none (fun _ => false) (some deadline) false fun _ => k ()

/-- Sleeps for `d`; a sleep whose end is past the clock's range lasts thirty years. -/
def sleepFor (d : Duration) : Async σ ε ι Unit := do
  sleepUntil ((← now).wake d)

/-- Starts a task running `child`: its number. -/
def spawn (child : Async σ ε ι Unit) : Async σ ε ι Nat := fun k => .spawn child.toProgram k

/-- Wakes the tasks waiting for `e`. -/
def notify (e : ε) : Async σ ε ι Unit := fun k => .notify e (k ())

def cancel (id : Nat) : Async σ ε ι Unit := fun k => .cancel id (k ())

def yieldNow : Async σ ε ι Unit := fun k => .yield (k ())

/-- Runs the given code side by side in this task, until all of it is over. -/
def all (xs : List (Async σ ε ι Unit)) : Async σ ε ι Unit :=
  fun k => .join (xs.map toProgram) (k ())

def call (p : ι) : Async σ ε ι Unit := fun k => .call p (k ())

def panic {α : Type} (why : String) : Async σ ε ι α := fun _ => .panic why

/-- Runs `x`, catching a failure of it: `none` when it failed. What follows `x` is not
guarded. -/
def catchPanic {α : Type} (x : Async σ ε ι α) : Async σ ε ι (Option α) :=
  fun k => .guard (x fun a => .unguard (k (some a))) (fun _ => k none)

end Async

end ActorSilo
