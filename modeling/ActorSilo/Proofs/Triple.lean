import ActorSilo.Proofs.Guarantee

/-! # Triples for code written by its continuation

Code of type `Async σ ε ι α` is a function of what follows it, so a property of the code is a
property of the programs it builds. `Async.Triple I G P x Q` says that `x`, started in a world
where `P` holds, changes the world only by `G`-steps and hands each result `a` to what follows
in a world where `Q a` holds. After a wait, a yield, a join or a call another task may have run,
so all that is then known of the world is the assumption `I`.

The rules below follow the constructs of `Async` one by one (`Triple.bind`, `Triple.get`,
`Triple.modify`, the waits, `Triple.spawn`, `Triple.catchPanic`, the loops over lists), so a
triple for a `do` block is read off its statements. `Triple.keepsAlways` turns a triple for a
task's code into what `Executor.drive_keeps` asks of the task.
-/

namespace ActorSilo

variable {σ ε ι α β : Type}

namespace Program

end Program

namespace Async

/-- `x`, started in a world where `P` holds, changes the world only by `G`-steps and hands each
result `a` to what follows in a world where `Q a` holds. -/
def Triple (I : σ → Prop) (G : σ → σ → Prop) (P : σ → Prop) (x : Async σ ε ι α)
    (Q : α → σ → Prop) : Prop :=
  ∀ s, P s → ∀ k : α → Program σ ε ι, (∀ a s', Q a s' → (k a).Keeps I G s') → (x k).Keeps I G s

variable {I : σ → Prop} {G : σ → σ → Prop} {P P' : σ → Prop} {Q Q' : α → σ → Prop}

/-! ## Structure -/

theorem Triple.mono {x : Async σ ε ι α} (triple : Triple I G P x Q) (pre : ∀ s, P' s → P s)
    (post : ∀ a s, Q a s → Q' a s) : Triple I G P' x Q' :=
  fun s holds k rest => triple s (pre s holds) k fun a s' done => rest a s' (post a s' done)

theorem Triple.pure (a : α) : Triple I G (Q a) (Pure.pure a : Async σ ε ι α) Q :=
  fun s holds _ rest => rest a s holds

theorem Triple.bind {x : Async σ ε ι α} {f : α → Async σ ε ι β} {R : α → σ → Prop}
    {Q : β → σ → Prop} (first : Triple I G P x R) (second : ∀ a, Triple I G (R a) (f a) Q) :
    Triple I G P (x >>= f) Q :=
  fun s holds k rest => first s holds _ fun a s' mid => second a s' mid k rest

/-! ## Reading and changing the world -/

theorem Triple.get {Q : σ → σ → Prop} : Triple I G (fun s => Q s s) (Async.get : Async σ ε ι σ) Q :=
  fun s holds _ rest => .read fun _ => rest s s holds

theorem Triple.now {Q : Instant → σ → Prop} :
    Triple I G (fun s => ∀ t, Q t s) (Async.now : Async σ ε ι Instant) Q :=
  fun s holds _ rest => .read fun t => rest t s (holds t)

theorem Triple.modify {f : σ → σ} {Q : Unit → σ → Prop} :
    Triple I G (fun s => G s (f s) ∧ Q () (f s)) (Async.modify f : Async σ ε ι Unit) Q :=
  fun _ holds _ rest => .act holds.1 (rest () _ holds.2)

theorem Triple.update {f : Instant → σ → σ × α} :
    Triple I G (fun s => ∀ t, G s (f t s).1 ∧ Q (f t s).2 (f t s).1)
      (Async.update f : Async σ ε ι α) Q :=
  fun _ holds _ rest => .read fun t => .act (holds t).1 (rest _ _ (holds t).2)

theorem Triple.panic (why : String) : Triple I G P (Async.panic why : Async σ ε ι α) Q :=
  fun _ _ _ _ => .panic

/-! ## Giving up the thread

Wherever the thread may be given up, another task may run, and what follows goes on from any
world `I` admits. -/

theorem Triple.call (p : ι) : Triple I G P (Async.call p : Async σ ε ι Unit) (fun _ s => I s) :=
  fun _ _ _ rest => .call fun s' holds => rest () s' holds

/-- A task's code keeps `G` from every world `I` admits once it does as a triple. -/
theorem Triple.keepsAlways {x : Async σ ε ι Unit} (triple : Triple I G I x fun _ _ => True) :
    x.toProgram.KeepsAlways I G :=
  fun s holds => triple s holds _ fun _ _ _ => .done

theorem Triple.spawn {child : Async σ ε ι Unit} (keeps : child.toProgram.KeepsAlways I G) :
    Triple I G P (Async.spawn child) (fun _ => P) :=
  fun s holds _ rest => .spawn (fun s' holds' => keeps s' holds') fun n => rest n s holds

theorem Triple.all {xs : List (Async σ ε ι Unit)} (each : ∀ x ∈ xs, x.toProgram.KeepsAlways I G) :
    Triple I G P (Async.all xs) (fun _ s => I s) := by
  intro _ _ _ rest
  refine .join (fun c member s' holds => ?_) (fun s' holds => rest () s' holds)
  obtain ⟨x, listed, rfl⟩ := List.mem_map.mp member
  exact each x listed s' holds

/-- The body of a guard runs on in the same stretch; a failure hands `none` to what follows,
from any world `I` admits. -/
theorem Triple.catchPanic {x : Async σ ε ι α} {Q : Option α → σ → Prop}
    (body : Triple I G P x fun a => Q (some a)) (failed : ∀ s, I s → Q none s) :
    Triple I G P (Async.catchPanic x) Q :=
  fun s holds _ rest =>
    .guard (body s holds _ fun _ s' done => .unguard (rest _ s' done))
      fun _ s' holds' => rest none s' (failed s' holds')

/-! ## Loops over lists -/

theorem Triple.forM {R : σ → Prop} {f : α → Async σ ε ι PUnit} :
    ∀ (l : List α), (∀ a ∈ l, Triple I G R (f a) fun _ => R) →
      Triple I G R (l.forM f) fun _ => R
  | [], _ => fun _ holds _ rest => rest _ _ holds
  | a :: l, each =>
    Triple.bind (each a (List.mem_cons_self ..)) fun _ =>
      Triple.forM l fun b member => each b (List.mem_cons_of_mem a member)

theorem Triple.mapM_loop {R : σ → Prop} {f : α → Async σ ε ι β} :
    ∀ (l : List α) (acc : List β), (∀ a ∈ l, Triple I G R (f a) fun _ => R) →
      Triple I G R (List.mapM.loop f l acc) fun _ => R
  | [], _, _ => fun _ holds _ rest => rest _ _ holds
  | a :: l, acc, each =>
    Triple.bind (each a (List.mem_cons_self ..)) fun b =>
      Triple.mapM_loop l (b :: acc) fun c member => each c (List.mem_cons_of_mem a member)

theorem Triple.mapM {R : σ → Prop} {f : α → Async σ ε ι β} (l : List α)
    (each : ∀ a ∈ l, Triple I G R (f a) fun _ => R) : Triple I G R (l.mapM f) fun _ => R :=
  Triple.mapM_loop l [] each

theorem Triple.filterMapM_loop {R : σ → Prop} {f : α → Async σ ε ι (Option β)} :
    ∀ (l : List α) (acc : List β), (∀ a ∈ l, Triple I G R (f a) fun _ => R) →
      Triple I G R (List.filterMapM.loop f l acc) fun _ => R
  | [], _, _ => fun _ holds _ rest => rest _ _ holds
  | a :: l, acc, each => by
    refine Triple.bind (each a (List.mem_cons_self ..)) fun b => ?_
    cases b with
    | none => exact Triple.filterMapM_loop l acc fun c member => each c (List.mem_cons_of_mem a member)
    | some b =>
      exact Triple.filterMapM_loop l (b :: acc) fun c member => each c (List.mem_cons_of_mem a member)

theorem Triple.filterMapM {R : σ → Prop} {f : α → Async σ ε ι (Option β)} (l : List α)
    (each : ∀ a ∈ l, Triple I G R (f a) fun _ => R) : Triple I G R (l.filterMapM f) fun _ => R :=
  Triple.filterMapM_loop l [] each

end Async

end ActorSilo
