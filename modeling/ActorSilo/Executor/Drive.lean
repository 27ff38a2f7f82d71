import ActorSilo.Executor.Program

/-! # Driving cooperative programs

One thread runs a main program and the tasks it starts under a virtual clock that moves only when
nothing can run. Woken tasks join a run queue; a woken main program runs first, before each batch
of at most 61 tasks. With the queue empty, tasks that yielded are woken, else the clock jumps to
the earliest timer (whole milliseconds) and the due timers fire in the order they were set. An
event wakes the owners registered with it, main program first. A guarded section ends alone on a
failure inside it. Every run of an owner has a budget of 128 ready waits before it must yield.
Every step costs one unit of fuel, and so does every round; running out ends the drive.
-/

namespace ActorSilo

/-- Who a timer or a wake-up is for. -/
inductive Owner where
  | main
  | task (id : Nat)
  deriving BEq, DecidableEq, Repr, Inhabited

/-- Where a task is in its programs. -/
inductive Thread (σ ε ι : Type) where
  /-- A program, then the programs still to run after it; `timer` is the timer set by
  the wait the program stopped at. -/
  | line (p : Program σ ε ι) (rest : List (Program σ ε ι)) (timer : Option Nat)
  /-- Stopped at `p` by a yield: registered with nothing, it goes on at `p` when it runs
  again. -/
  | held (p : Program σ ε ι) (rest : List (Program σ ε ι)) (timer : Option Nat)
  /-- Programs side by side; `k`, then `rest`, follow once all of them are over. -/
  | fork (children : List (Thread σ ε ι)) (k : Program σ ε ι) (rest : List (Program σ ε ι))
  /-- A guarded thread: when it fails, `onPanic` and the reason follow, then `rest`; when
  it leaves the guard, what it leaves with follows, then `rest`. -/
  | guarded (inner : Thread σ ε ι) (onPanic : String → Program σ ε ι) (rest : List (Program σ ε ι))
  | ended

/-- How a run of a thread stopped. -/
inductive Poll where
  | pending
  | ended
  | failed (why : String)
  /-- It left a guard; the thread stands at the `unguard`. -/
  | unguarded
  | exhausted
  deriving BEq, Repr, Inhabited

/-- A timer: due at a whole millisecond of the clock. -/
structure Timer where
  id : Nat
  tick : Nat
  owner : Owner
  fired : Bool := false
  deriving Repr, Inhabited

def nanosPerMilli : Nat := 1000000

/-- The millisecond a deadline falls due at: the deadline rounded up. -/
def dueTick (deadline : Instant) : Nat := (deadline + nanosPerMilli - 1) / nanosPerMilli

namespace Thread

variable {σ ε ι : Type}

def waits : Thread σ ε ι → List (Cond ε)
  | line (.await (some c) _ _ _ _) _ _ => [c]
  | line .. => []
  | held .. => []
  | fork cs _ _ => waitsAll cs
  | guarded inner _ _ => waits inner
  | ended => []
where
  waitsAll : List (Thread σ ε ι) → List (Cond ε)
    | [] => []
    | t :: ts => waits t ++ waitsAll ts

/-- The thread waits for `c`. -/
def waitsFor [BEq ε] (t : Thread σ ε ι) (c : Cond ε) : Bool := t.waits.contains c

end Thread

/-- The thread, its tasks, the run queue, the timers and the clock. -/
structure Executor (σ ε ι : Type) where
  clock : Instant := 0
  world : σ
  main : Thread σ ε ι := .ended
  mainWoken : Bool := false
  tasks : List (Nat × Thread σ ε ι) := []
  queue : List Nat := []
  nextTask : Nat := 1
  /-- Timers set and not yet dropped, oldest first. -/
  timers : List Timer := []
  nextTimer : Nat := 1
  /-- Who yielded, in order; they are woken when the queue runs dry. -/
  deferred : List Owner := []
  /-- Who runs now, and the events it is registered with while it runs. -/
  running : Option Owner := none
  runningWaits : List (Cond ε) := []
  /-- Registrations that a wake has used up since their owner last ran. -/
  used : List (Owner × Cond ε) := []
  /-- The running owner was woken while it ran. -/
  rewake : Bool := false
  /-- The running task was cancelled while it ran. -/
  doomed : Bool := false
  /-- Budget units the running owner spent in this run. -/
  spent : Nat := 0
  /-- Budget units the main program spent since it last waited. -/
  mainSpent : Nat := 0

/-- How a drive ended. -/
inductive Outcome where
  | finished
  | failed (why : String)
  /-- Nothing can run and no timer is set: the main program waits forever. -/
  | stalled
  | exhausted
  deriving BEq, Repr, Inhabited

namespace Executor

variable {σ ε ι : Type} [BEq ε]

def coopBudget : Nat := 128

def tick (x : Executor σ ε ι) : Nat := x.clock / nanosPerMilli

def live (x : Executor σ ε ι) (id : Nat) : Bool := x.tasks.any (·.1 == id)

def enqueue (x : Executor σ ε ι) (id : Nat) : Executor σ ε ι :=
  if x.queue.contains id then x else { x with queue := x.queue ++ [id] }

/-- Wakes an owner: the main program is marked, a task is queued. -/
def wakeOwner (x : Executor σ ε ι) : Owner → Executor σ ε ι
  | .main => { x with mainWoken := true }
  | .task id => if x.live id then x.enqueue id else x

/-- The owner is registered with `c` and the registration is not used up. -/
def registered (x : Executor σ ε ι) (who : Owner) (th : Thread σ ε ι) (c : Cond ε) : Bool :=
  th.waitsFor c && !x.used.contains (who, c)

/-- Wakes whoever is registered with `c`: the main program, then the tasks in order,
using the registrations up. A running owner registered with `c` is marked to run
again. -/
def wake (x : Executor σ ε ι) (c : Cond ε) : Executor σ ε ι :=
  let x :=
    if x.running == some .main then
      if x.runningWaits.contains c then
        { x with mainWoken := true, runningWaits := x.runningWaits.erase c }
      else x
    else if x.registered .main x.main c then
      { x with mainWoken := true, used := x.used ++ [(.main, c)] }
    else x
  x.tasks.foldl (fun x (id, th) =>
    if x.running == some (.task id) then
      if x.runningWaits.contains c then
        { x with rewake := true, runningWaits := x.runningWaits.erase c }
      else x
    else if x.registered (.task id) th c then
      { x.enqueue id with used := x.used ++ [(.task id, c)] }
    else x) x

/-- The running owner registers with what a wait that stops waits for. -/
def register (x : Executor σ ε ι) : Option (Cond ε) → Executor σ ε ι
  | some c => if x.runningWaits.contains c then x else { x with runningWaits := x.runningWaits ++ [c] }
  | none => x

/-- Starts a run of `who` on `th`: the registrations it still holds are those of its
waits that no wake used up. -/
def enter (x : Executor σ ε ι) (who : Owner) (th : Thread σ ε ι) : Executor σ ε ι :=
  { x with
    running := some who
    runningWaits := th.waits.filter fun c => !x.used.contains (who, c)
    used := x.used.filter (·.1 != who)
    spent := 0 }

/-- Sets a timer for `owner` due at millisecond `tick`: its number. -/
def addTimer (x : Executor σ ε ι) (tick : Nat) (owner : Owner) : Executor σ ε ι × Nat :=
  ({ x with timers := x.timers ++ [{ id := x.nextTimer, tick, owner }], nextTimer := x.nextTimer + 1 },
    x.nextTimer)

def dropTimer (x : Executor σ ε ι) : Option Nat → Executor σ ε ι
  | none => x
  | some id => { x with timers := x.timers.filter (·.id != id) }

def fired (x : Executor σ ε ι) (id : Nat) : Bool := x.timers.any fun t => t.id == id && t.fired

def addTask (x : Executor σ ε ι) (p : Program σ ε ι) : Executor σ ε ι × Nat :=
  let x' := { x with
    tasks := x.tasks ++ [(x.nextTask, .line p [] none)]
    queue := x.queue ++ [x.nextTask]
    nextTask := x.nextTask + 1 }
  (x', x.nextTask)

/-- Ends a task: its thread and timers are dropped and those waiting for it are woken. -/
def endTask (x : Executor σ ε ι) (id : Nat) : Executor σ ε ι :=
  let x := { x with
    tasks := x.tasks.filter (·.1 != id)
    queue := x.queue.filter (· != id)
    timers := x.timers.filter (·.owner != Owner.task id)
    used := x.used.filter (·.1 != Owner.task id) }
  x.wake (.task id)

/-- Cancels a task; a task cancelled while it runs ends when it next stops. -/
def cancelTask (x : Executor σ ε ι) (id : Nat) : Executor σ ε ι :=
  if x.running == some (.task id) then { x with doomed := true }
  else if x.live id then x.endTask id else x

/-- Runs a thread of `who` until it waits, ends or fails. -/
def runThread (expand : ι → Program σ ε ι) : Nat → Owner → Executor σ ε ι → Thread σ ε ι →
    Executor σ ε ι × Thread σ ε ι × Poll
  | 0, _, x, th => (x, th, .exhausted)
  | _ + 1, _, x, .ended => (x, .ended, .ended)
  | fuel + 1, who, x, .fork cs k rest =>
    let visit (acc : Executor σ ε ι × List (Thread σ ε ι) × Option String) (c : Thread σ ε ι) :=
      let (x, done, err) := acc
      match err with
      | some _ => (x, done ++ [c], err)
      | none =>
        let (x, c, st) := runThread expand fuel who x c
        match st with
        | .failed why => (x, done ++ [c], some why)
        | .unguarded => (x, done ++ [c], some "a guard left twice")
        | .exhausted => (x, done ++ [c], some "out of fuel")
        | _ => (x, done ++ [c], none)
    let (x, cs, err) := cs.foldl visit (x, [], none)
    match err with
    | some why => (x, .ended, .failed why)
    | none =>
      if cs.all fun c => match c with | .ended => true | _ => false then
        runThread expand fuel who x (.line k rest none)
      else (x, .fork cs k rest, .pending)
  | fuel + 1, who, x, .held p rest timer => runThread expand fuel who x (.line p rest timer)
  | fuel + 1, who, x, .guarded inner onPanic rest =>
    let (x, inner, st) := runThread expand fuel who x inner
    match st, inner with
    | .pending, _ => (x, .guarded inner onPanic rest, .pending)
    | .ended, _ => runThread expand fuel who x (.line .done rest none)
    | .failed why, _ => runThread expand fuel who x (.line (onPanic why) rest none)
    | .unguarded, .line (.unguard k) more _ => runThread expand fuel who x (.line k (more ++ rest) none)
    | .unguarded, _ => (x, .ended, .failed "a guard left twice")
    | .exhausted, _ => (x, .guarded inner onPanic rest, .exhausted)
  | fuel + 1, who, x, .line p rest timer =>
    match p with
    | .done =>
      match rest with
      | [] => (x, .ended, .ended)
      | q :: rest => runThread expand fuel who x (.line q rest none)
    | .act f k => runThread expand fuel who { x with world := f x.world } (.line k rest none)
    | .read k => runThread expand fuel who x (.line (k x.clock x.world) rest none)
    | .await on ready deadline spends k =>
      let isReady := match on with
        | some (.task id) => !x.live id
        | _ => ready x.world
      let spent := coopBudget ≤ x.spent
      let yielded := ({ x with deferred := x.deferred ++ [who] }, Thread.held p rest timer, Poll.pending)
      if isReady then
        if !spends then runThread expand fuel who (x.dropTimer timer) (.line (k true) rest none)
        else if spent then yielded
        else runThread expand fuel who { x.dropTimer timer with spent := x.spent + 1 } (.line (k true) rest none)
      else
        match deadline, timer with
        | none, _ => (x.register on, .line p rest timer, .pending)
        | some _, some id =>
          if !x.fired id then (x.register on, .line p rest timer, .pending)
          else if spent then yielded
          else runThread expand fuel who { x.dropTimer timer with spent := x.spent + 1 } (.line (k false) rest none)
        | some d, none =>
          if dueTick d ≤ x.tick then
            if spent then yielded
            else runThread expand fuel who { x with spent := x.spent + 1 } (.line (k false) rest none)
          else
            let (x, id) := x.addTimer (dueTick d) who
            (x.register on, .line p rest (some id), .pending)
    | .spawn child k =>
      let (x, id) := x.addTask child
      runThread expand fuel who x (.line (k id) rest none)
    | .notify e k => runThread expand fuel who (x.wake (.event e)) (.line k rest none)
    | .cancel id k => runThread expand fuel who (x.cancelTask id) (.line k rest none)
    | .yield k => ({ x with deferred := x.deferred ++ [who] }, .held k rest none, .pending)
    | .join cs k => runThread expand fuel who x (.fork (cs.map (.line · [] none)) k rest)
    | .call j k =>
      let rest := match k with
        | .done => rest
        | _ => k :: rest
      runThread expand fuel who x (.line (expand j) rest none)
    | .panic why => (x, .ended, .failed why)
    | .guard body onPanic => runThread expand fuel who x (.guarded (.line body [] none) onPanic rest)
    | .unguard k => (x, .line (.unguard k) rest none, .unguarded)

def runTask (expand : ι → Program σ ε ι) (fuel : Nat) (x : Executor σ ε ι) (id : Nat) :
    Executor σ ε ι :=
  match x.tasks.find? (·.1 == id) with
  | none => x
  | some (_, th) =>
    let x := { x.enter (.task id) th with rewake := false, doomed := false }
    let (x, th, st) := runThread expand fuel (.task id) x th
    let x := { x with running := none }
    match st with
    | .pending =>
      if x.doomed then x.endTask id
      else
        let x := { x with tasks := x.tasks.map fun (j, t) => if j == id then (j, th) else (j, t) }
        if x.rewake then x.enqueue id else x
    | _ => x.endTask id

def runMain (expand : ι → Program σ ε ι) (fuel : Nat) (x : Executor σ ε ι) :
    Executor σ ε ι × Poll :=
  let x := { x.enter .main x.main with mainWoken := false, spent := x.mainSpent }
  let (x, th, st) := runThread expand fuel .main x x.main
  ({ x with running := none, main := th, mainSpent := if st == .pending then 0 else x.spent }, st)

/-- Runs at most `n` queued tasks: true when the queue ran dry. -/
def runBatch (expand : ι → Program σ ε ι) (fuel : Nat) : Nat → Executor σ ε ι → Executor σ ε ι × Bool
  | 0, x => (x, false)
  | n + 1, x =>
    match x.queue with
    | [] => (x, true)
    | id :: rest => runBatch expand fuel n (runTask expand fuel { x with queue := rest } id)

def wakeDeferred (x : Executor σ ε ι) : Executor σ ε ι :=
  x.deferred.foldl wakeOwner { x with deferred := [] }

/-- Fires the timers due by the current millisecond, in the order they were set. -/
def fireDue (x : Executor σ ε ι) : Executor σ ε ι :=
  let due := x.timers.filter fun t => !t.fired && t.tick ≤ x.tick
  let x := { x with timers := x.timers.map fun t => if !t.fired && t.tick ≤ x.tick then { t with fired := true } else t }
  due.foldl (fun x t => x.wakeOwner t.owner) x

/-- Lets time pass until the earliest timer, fires what is due and wakes those who
yielded; `none` when no timer is set. -/
def park (x : Executor σ ε ι) : Option (Executor σ ε ι) :=
  match (x.timers.filter (!·.fired)).map (·.tick) with
  | [] => none
  | t :: ts =>
    let next := ts.foldl min t
    let x := if x.tick < next then { x with clock := next * nanosPerMilli } else x
    some (x.fireDue.wakeDeferred)

/-- Fires what is due without letting time pass, and wakes those who yielded. -/
def parkYield (x : Executor σ ε ι) : Executor σ ε ι := x.fireDue.wakeDeferred

/-- Tasks run per batch before the main program may run again. -/
def batchSize : Nat := 61

def drive (expand : ι → Program σ ε ι) (steps : Nat) : Nat → Executor σ ε ι → Executor σ ε ι × Outcome
  | 0, x => (x, .exhausted)
  | rounds + 1, x =>
    let (x, st) := if x.mainWoken then runMain expand steps x else (x, .pending)
    match st with
    | .ended => (x, .finished)
    | .failed why => (x, .failed why)
    | .unguarded => (x, .failed "a guard left twice")
    | .exhausted => (x, .failed "out of fuel")
    | .pending =>
      let (x, dry) := runBatch expand steps batchSize x
      if dry && x.deferred.isEmpty && !x.mainWoken then
        match x.park with
        | some x => drive expand steps rounds x
        | none => (x, .stalled)
      else drive expand steps rounds x.parkYield

/-- Starts `p` as the main program and drives until it is over. -/
def start (expand : ι → Program σ ε ι) (steps rounds : Nat) (x : Executor σ ε ι) (p : Program σ ε ι) :
    Executor σ ε ι × Outcome :=
  drive expand steps rounds { x with main := .line p [] none, mainWoken := true }

end Executor

end ActorSilo
