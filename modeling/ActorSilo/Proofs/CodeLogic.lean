import ActorSilo.Proofs.Triple

/-! # Code proved once for every program logic that admits it

A `Program.Logic` says what it asks of a program run from a world at each place of a thread
(`Good`), closed under the constructs of programs: a step it admits (`Step`), a wait after which
only `Ready` is known, a new task, a join, a guard, and a call of a procedure it admits (`Calls`).
`Async.Spec L P x Q` is the triple of `L`; its rules follow the constructs of `Async`, and
`Async.Triple` is the triple of one such logic (`Program.Logic.keeps`, `Async.Spec.triple`).
-/

namespace ActorSilo

variable {σ ε ι α β : Type}

namespace Program

/-- A property of programs run from a world at each place of a thread, closed under the
constructs of programs. -/
structure Logic (σ ε ι : Type) where
  /-- Where in a thread a program runs. -/
  Place : Type
  /-- What the logic asks of a program run from a world at a place. -/
  Good : Place → σ → Program σ ε ι → Prop
  /-- What is known of the world at a place once other tasks may have run. -/
  Ready : Place → σ → Prop
  /-- The changes of the world the logic admits. -/
  Step : σ → σ → Prop
  /-- The procedures the code of a task may call. -/
  Calls : ι → Prop
  task : Place
  /-- A child of a join made at a place. -/
  child : Place → Place
  /-- The body of a guard made at a place. -/
  inner : Place → Place
  done_task {s : σ} : Good task s .done
  done_child {c : Place} {s : σ} : Good (child c) s .done
  act {c : Place} {s : σ} {f : σ → σ} {k : Program σ ε ι} :
    Step s (f s) → Good c (f s) k → Good c s (.act f k)
  read {c : Place} {s : σ} {k : Instant → σ → Program σ ε ι} :
    (∀ t, Good c s (k t s)) → Good c s (.read k)
  await {c : Place} {s : σ} {on : Option (Cond ε)} {ready : σ → Bool} {deadline : Option Instant}
    {spends : Bool} {k : Bool → Program σ ε ι} :
    (∀ s' b, Ready c s' → Good c s' (k b)) → Good c s (.await on ready deadline spends k)
  yield {c : Place} {s : σ} {k : Program σ ε ι} :
    (∀ s', Ready c s' → Good c s' k) → Good c s (.yield k)
  notify {c : Place} {s : σ} {e : ε} {k : Program σ ε ι} : Good c s k → Good c s (.notify e k)
  cancel {c : Place} {s : σ} {id : Nat} {k : Program σ ε ι} : Good c s k → Good c s (.cancel id k)
  spawn {c : Place} {s : σ} {child : Program σ ε ι} {k : Nat → Program σ ε ι} :
    (∀ s', Ready task s' → Good task s' child) → (∀ n, Good c s (k n)) →
      Good c s (.spawn child k)
  join {c : Place} {s : σ} {cs : List (Program σ ε ι)} {k : Program σ ε ι} :
    (∀ p ∈ cs, ∀ s', Ready (child c) s' → Good (child c) s' p) →
      (∀ s', Ready c s' → Good c s' k) → Good c s (.join cs k)
  call {s : σ} {j : ι} {k : Program σ ε ι} :
    Calls j → (∀ s', Ready task s' → Good task s' k) → Good task s (.call j k)
  panic {c : Place} {s : σ} {why : String} : Good c s (.panic why)
  guard {c : Place} {s : σ} {body : Program σ ε ι} {onPanic : String → Program σ ε ι} :
    Good (inner c) s body → (∀ why s', Ready c s' → Good c s' (onPanic why)) →
      Good c s (.guard body onPanic)
  unguard {c : Place} {s : σ} {k : Program σ ε ι} : Good c s k → Good (inner c) s (.unguard k)

/-- `Program.Keeps` as a logic: one place, every procedure callable. -/
def Logic.keeps (I : σ → Prop) (G : σ → σ → Prop) : Logic σ ε ι where
  Place := Unit
  Good _ s p := p.Keeps I G s
  Ready _ := I
  Step := G
  Calls _ := True
  task := ()
  child _ := ()
  inner _ := ()
  done_task := .done
  done_child := .done
  act step good := .act step good
  read good := .read good
  await good := .await good
  yield good := .yield good
  notify good := .notify good
  cancel good := .cancel good
  spawn child rest := .spawn child rest
  join children rest := .join children rest
  call _ rest := .call rest
  panic := .panic
  guard body onPanic := .guard body onPanic
  unguard good := .unguard good

end Program

namespace Async

/-- `x`, started in a world where `P` holds, hands each result `a` to what follows in a world
where `Q a` holds, as the logic `L` asks at every place. -/
def Spec (L : Program.Logic σ ε ι) (P : σ → Prop) (x : Async σ ε ι α) (Q : α → σ → Prop) :
    Prop :=
  ∀ c s, P s → ∀ k : α → Program σ ε ι, (∀ a s', Q a s' → L.Good c s' (k a)) → L.Good c s (x k)

variable {L : Program.Logic σ ε ι} {P P' : σ → Prop} {Q Q' : α → σ → Prop}

/-- A triple of `Program.Keeps` is the triple of its logic. -/
theorem Spec.triple {I : σ → Prop} {G : σ → σ → Prop} {x : Async σ ε ι α}
    (spec : Spec (.keeps I G) P x Q) : Triple I G P x Q :=
  spec ()

/-! ## Structure -/

theorem Spec.mono {x : Async σ ε ι α} (spec : Spec L P x Q) (pre : ∀ s, P' s → P s)
    (post : ∀ a s, Q a s → Q' a s) : Spec L P' x Q' :=
  fun c s holds k rest => spec c s (pre s holds) k fun a s' done => rest a s' (post a s' done)

theorem Spec.pure (a : α) : Spec L (Q a) (Pure.pure a : Async σ ε ι α) Q :=
  fun _ s holds _ rest => rest a s holds

theorem Spec.bind {x : Async σ ε ι α} {f : α → Async σ ε ι β} {R : α → σ → Prop}
    {Q : β → σ → Prop} (first : Spec L P x R) (second : ∀ a, Spec L (R a) (f a) Q) :
    Spec L P (x >>= f) Q :=
  fun c s holds k rest => first c s holds _ fun a s' mid => second a c s' mid k rest

/-! ## Reading and changing the world -/

theorem Spec.get {Q : σ → σ → Prop} : Spec L (fun s => Q s s) (Async.get : Async σ ε ι σ) Q :=
  fun _ s holds _ rest => L.read fun _ => rest s s holds

theorem Spec.now {Q : Instant → σ → Prop} :
    Spec L (fun s => ∀ t, Q t s) (Async.now : Async σ ε ι Instant) Q :=
  fun _ s holds _ rest => L.read fun t => rest t s (holds t)

theorem Spec.modify {f : σ → σ} {Q : Unit → σ → Prop} :
    Spec L (fun s => L.Step s (f s) ∧ Q () (f s)) (Async.modify f : Async σ ε ι Unit) Q :=
  fun _ _ holds _ rest => L.act holds.1 (rest () _ holds.2)

theorem Spec.modifyAt {f : Instant → σ → σ} {Q : Unit → σ → Prop} :
    Spec L (fun s => ∀ t, L.Step s (f t s) ∧ Q () (f t s)) (Async.modifyAt f : Async σ ε ι Unit) Q :=
  fun _ _ holds _ rest => L.read fun t => L.act (holds t).1 (rest () _ (holds t).2)

theorem Spec.update {f : Instant → σ → σ × α} :
    Spec L (fun s => ∀ t, L.Step s (f t s).1 ∧ Q (f t s).2 (f t s).1)
      (Async.update f : Async σ ε ι α) Q :=
  fun _ _ holds _ rest => L.read fun t => L.act (holds t).1 (rest _ _ (holds t).2)

theorem Spec.notify (e : ε) {Q : Unit → σ → Prop} :
    Spec L (Q ()) (Async.notify e : Async σ ε ι Unit) Q :=
  fun _ s holds _ rest => L.notify (rest () s holds)

theorem Spec.cancel (id : Nat) {Q : Unit → σ → Prop} :
    Spec L (Q ()) (Async.cancel id : Async σ ε ι Unit) Q :=
  fun _ s holds _ rest => L.cancel (rest () s holds)

theorem Spec.panic (why : String) : Spec L P (Async.panic why : Async σ ε ι α) Q :=
  fun _ _ _ _ _ => L.panic

/-! ## Giving up the thread

Wherever the thread may be given up another task may run, and what is then known of the world
depends on the place: the triple's postcondition says nothing. -/

theorem Spec.waitFor (e : ε) (ready : σ → Bool) :
    Spec L P (Async.waitFor e ready : Async σ ε ι Unit) (fun _ _ => True) :=
  fun _ _ _ _ rest => L.await fun s' _ _ => rest () s' trivial

theorem Spec.waitToTake (e : ε) (ready : σ → Bool) :
    Spec L P (Async.waitToTake e ready : Async σ ε ι Unit) (fun _ _ => True) :=
  fun _ _ _ _ rest => L.await fun s' _ _ => rest () s' trivial

theorem Spec.sleepUntil (deadline : Instant) :
    Spec L P (Async.sleepUntil deadline : Async σ ε ι Unit) (fun _ _ => True) :=
  fun _ _ _ _ rest => L.await fun s' _ _ => rest () s' trivial

theorem Spec.sleepFor (d : Duration) :
    Spec L P (Async.sleepFor d : Async σ ε ι Unit) (fun _ _ => True) :=
  fun _ _ _ _ rest => L.read fun _ => L.await fun s' _ _ => rest () s' trivial

/-! ## Tasks, joins and guards -/

/-- `x` as the code of a task: run alone and outside guards, where it may also call the
procedures the logic admits. Code proved at every place is such code (`Spec.task`). -/
def TaskSpec (L : Program.Logic σ ε ι) (P : σ → Prop) (x : Async σ ε ι α) (Q : α → σ → Prop) :
    Prop :=
  ∀ s, P s → ∀ k : α → Program σ ε ι, (∀ a s', Q a s' → L.Good L.task s' (k a)) →
    L.Good L.task s (x k)

theorem Spec.task {x : Async σ ε ι α} (spec : Spec L P x Q) : TaskSpec L P x Q := spec L.task

theorem TaskSpec.bind {x : Async σ ε ι α} {f : α → Async σ ε ι β} {R : α → σ → Prop}
    {Q : β → σ → Prop} (first : TaskSpec L P x R) (second : ∀ a, TaskSpec L (R a) (f a) Q) :
    TaskSpec L P (x >>= f) Q :=
  fun s holds k rest => first s holds _ fun a s' mid => second a s' mid k rest

theorem TaskSpec.call {j : ι} (calls : L.Calls j) :
    TaskSpec L P (Async.call j : Async σ ε ι Unit) (fun _ _ => True) :=
  fun _ _ _ rest => L.call calls fun s' _ => rest () s' trivial

theorem Spec.spawn {child : Async σ ε ι Unit}
    (code : TaskSpec L (fun _ => True) child fun _ _ => True) :
    Spec L P (Async.spawn child) (fun _ => P) :=
  fun _ s holds _ rest =>
    L.spawn (fun s' _ => code s' trivial _ fun _ _ _ => L.done_task) fun n => rest n s holds

theorem Spec.launch {j : ι} (calls : L.Calls j) :
    Spec L P (Async.spawn (Async.call j : Async σ ε ι Unit)) (fun _ => P) :=
  Spec.spawn (TaskSpec.call calls)

theorem Spec.catchPanic {x : Async σ ε ι α} {Q : Option α → σ → Prop}
    (body : Spec L P x fun a => Q (some a)) (failed : ∀ s, Q none s) :
    Spec L P (Async.catchPanic x) Q :=
  fun c s holds _ rest =>
    L.guard (body (L.inner c) s holds _ fun _ s' done => L.unguard (rest _ s' done))
      fun _ s' _ => rest none s' (failed s')

/-! ## Loops over lists -/

theorem Spec.forM {R : σ → Prop} {f : α → Async σ ε ι PUnit} :
    ∀ (l : List α), (∀ a ∈ l, Spec L R (f a) fun _ => R) → Spec L R (l.forM f) fun _ => R
  | [], _ => fun _ _ holds _ rest => rest _ _ holds
  | a :: l, each =>
    Spec.bind (each a (List.mem_cons_self ..)) fun _ =>
      Spec.forM l fun b member => each b (List.mem_cons_of_mem a member)

end Async

end ActorSilo
