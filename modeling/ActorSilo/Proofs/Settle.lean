import ActorSilo.Executor.Program

/-! # Running code until it first gives up the thread

A task runs alone between two points at which it may let another task run, so what it does
between them is one atomic step of the silo. `Program.settle` runs a program through such a
stretch at one instant of the clock: it changes and reads the world, reads the clock, starts
tasks and wakes others at once, and stops at its end, at a failure, or at the first construct
that may give up the thread (a wait, a yield, a join, the call of a named procedure, a guard).

`Async.Runs x now s a s' started` says that code `x`, started in world `s`, goes through
such a stretch to its own end: it returns `a` in world `s'` having started the tasks
`started`, and what follows it then runs as it would have from there. `Async.Fails` says
that it fails on the way. Both compose along `bind`, so what a silo procedure does in one
step is read off its `do` block, statement by statement.
-/

namespace ActorSilo

/-- Where a stretch of a program stopped: the world it left, the programs of the tasks it
started, in order, and the message it failed with, if it failed. -/
structure Settled (σ ε ι : Type) where
  world : σ
  started : List (Program σ ε ι)
  failure : Option String

namespace Settled

variable {σ ε ι : Type}

/-- The same stretch, after the tasks `earlier` were started first. -/
def after (earlier : List (Program σ ε ι)) (r : Settled σ ε ι) : Settled σ ε ι :=
  { r with started := earlier ++ r.started }

@[simp] theorem after_nil (r : Settled σ ε ι) : r.after [] = r := rfl

theorem after_after (first second : List (Program σ ε ι)) (r : Settled σ ε ι) :
    (r.after second).after first = r.after (first ++ second) := by
  simp [after, List.append_assoc]

end Settled

namespace Program

variable {σ ε ι : Type}

/-- Runs a program at the instant `now` without giving up the thread, numbering the tasks it
starts from `next`. -/
def settle (now : Instant) : Program σ ε ι → Nat → σ → Settled σ ε ι
  | .act f k, next, s => settle now k next (f s)
  | .read k, next, s => settle now (k now s) next s
  | .spawn child k, next, s => (settle now (k next) (next + 1) s).after [child]
  | .notify _ k, next, s => settle now k next s
  | .cancel _ k, next, s => settle now k next s
  | .panic why, _, s => ⟨s, [], some why⟩
  | _, _, s => ⟨s, [], none⟩

@[simp] theorem settle_act (now : Instant) (f : σ → σ) (k : Program σ ε ι) (next : Nat) (s : σ) :
    (act f k).settle now next s = k.settle now next (f s) := rfl

@[simp] theorem settle_read (now : Instant) (k : Instant → σ → Program σ ε ι) (next : Nat) (s : σ) :
    (read k).settle now next s = (k now s).settle now next s := rfl

@[simp] theorem settle_spawn (now : Instant) (child : Program σ ε ι) (k : Nat → Program σ ε ι)
    (next : Nat) (s : σ) :
    (spawn child k).settle now next s = ((k next).settle now (next + 1) s).after [child] := rfl

@[simp] theorem settle_notify (now : Instant) (e : ε) (k : Program σ ε ι) (next : Nat) (s : σ) :
    (notify e k).settle now next s = k.settle now next s := rfl

@[simp] theorem settle_panic (now : Instant) (why : String) (next : Nat) (s : σ) :
    (panic why : Program σ ε ι).settle now next s = ⟨s, [], some why⟩ := rfl

@[simp] theorem settle_done (now : Instant) (next : Nat) (s : σ) :
    (done : Program σ ε ι).settle now next s = ⟨s, [], none⟩ := rfl

end Program

namespace Async

variable {σ ε ι α β : Type}

/-- `x`, started in world `s` at `now`, returns `a` in world `s'` without giving up the
thread, having started the tasks `started`. -/
def Runs (x : Async σ ε ι α) (now : Instant) (s : σ) (a : α) (s' : σ)
    (started : List (Program σ ε ι)) : Prop :=
  ∀ k next, (x k).settle now next s = ((k a).settle now (next + started.length) s').after started

/-- `x`, started in world `s` at `now`, fails with `why` in world `s'` without giving up the
thread, having started the tasks `started`. -/
def Fails (x : Async σ ε ι α) (now : Instant) (s s' : σ) (started : List (Program σ ε ι))
    (why : String) : Prop :=
  ∀ k next, (x k).settle now next s = ⟨s', started, some why⟩

/-- `x`, started in world `s` at `now`, stops before its end in world `s'`, at a failure (with its
message) or at a point where it may give up the thread (with none), having started the tasks
`started`: what follows it does not run. -/
def Halts (x : Async σ ε ι α) (now : Instant) (s s' : σ) (started : List (Program σ ε ι))
    (failure : Option String) : Prop :=
  ∀ k next, (x k).settle now next s = ⟨s', started, failure⟩

theorem Fails.halts {x : Async σ ε ι α} {now : Instant} {s s' : σ} {started : List (Program σ ε ι)}
    {why : String} (h : Fails x now s s' started why) : Halts x now s s' started (some why) := h

theorem Runs.world_eq {x : Async σ ε ι α} {now : Instant} {s s₁ s₂ : σ} {a b : α}
    {started₁ started₂ : List (Program σ ε ι)} (first : Runs x now s a s₁ started₁)
    (second : Runs x now s b s₂ started₂) : s₁ = s₂ := by
  have same := (first (fun _ => .done) 0).symm.trans (second (fun _ => .done) 0)
  exact congrArg Settled.world same

theorem Runs.bool_eq {x : Async σ ε ι Bool} {now : Instant} {s s₁ s₂ : σ} {a b : Bool}
    {started₁ started₂ : List (Program σ ε ι)} (first : Runs x now s a s₁ started₁)
    (second : Runs x now s b s₂ started₂) : a = b := by
  -- a continuation that fails on `false` tells the two answers apart
  have same := (first (fun c => if c then .done else .panic "") 0).symm.trans
    (second (fun c => if c then .done else .panic "") 0)
  have failure := congrArg Settled.failure same
  cases a <;> cases b <;> simp_all [Settled.after]

theorem Runs.toProgram {x : Async σ ε ι Unit} {now : Instant} {s s' : σ}
    {started : List (Program σ ε ι)} (h : Runs x now s () s' started) (next : Nat) :
    x.toProgram.settle now next s = ⟨s', started, none⟩ := by
  change (x fun _ => .done).settle now next s = _
  rw [h]
  simp [Settled.after]

theorem Halts.toProgram {x : Async σ ε ι Unit} {now : Instant} {s s' : σ}
    {started : List (Program σ ε ι)} {failure : Option String} (h : Halts x now s s' started failure)
    (next : Nat) : x.toProgram.settle now next s = ⟨s', started, failure⟩ :=
  h _ next

theorem bind_assoc {δ : Type} (x : Async σ ε ι α) (f : α → Async σ ε ι β) (g : β → Async σ ε ι δ) :
    x >>= f >>= g = x >>= fun a => f a >>= g := rfl

theorem pure_bind (a : α) (f : α → Async σ ε ι β) : pure a >>= f = f a := rfl

theorem runs_pure (a : α) (now : Instant) (s : σ) : Runs (pure a : Async σ ε ι α) now s a s [] := by
  intro k next
  rfl

theorem Runs.bind {x : Async σ ε ι α} {f : α → Async σ ε ι β} {now : Instant} {s s₁ s₂ : σ}
    {a : α} {b : β} {first second : List (Program σ ε ι)}
    (hx : Runs x now s a s₁ first) (hf : Runs (f a) now s₁ b s₂ second) :
    Runs (x >>= f) now s b s₂ (first ++ second) := by
  intro k next
  change (x fun a => f a k).settle now next s = _
  rw [hx, hf, Settled.after_after, List.length_append, Nat.add_assoc]

theorem Runs.settle_bind {x : Async σ ε ι α} {f : α → Async σ ε ι β} {now : Instant} {s s' : σ}
    {a : α} (hx : Runs x now s a s' []) (k : β → Program σ ε ι) (next : Nat) :
    ((x >>= f) k).settle now next s = (f a k).settle now next s' := by
  change (x fun a => f a k).settle now next s = _
  rw [hx]
  rfl

theorem Fails.bind {x : Async σ ε ι α} {f : α → Async σ ε ι β} {now : Instant} {s s' : σ}
    {started : List (Program σ ε ι)} {why : String} (hx : Fails x now s s' started why) :
    Fails (x >>= f) now s s' started why := by
  intro k next
  exact hx _ next

theorem Runs.bind_fails {x : Async σ ε ι α} {f : α → Async σ ε ι β} {now : Instant}
    {s s₁ s₂ : σ} {a : α} {first second : List (Program σ ε ι)} {why : String}
    (hx : Runs x now s a s₁ first) (hf : Fails (f a) now s₁ s₂ second why) :
    Fails (x >>= f) now s s₂ (first ++ second) why := by
  intro k next
  change (x fun a => f a k).settle now next s = _
  rw [hx, hf]
  rfl

theorem Halts.bind {x : Async σ ε ι α} {f : α → Async σ ε ι β} {now : Instant} {s s' : σ}
    {started : List (Program σ ε ι)} {failure : Option String}
    (hx : Halts x now s s' started failure) : Halts (x >>= f) now s s' started failure := by
  intro k next
  exact hx _ next

theorem Runs.bind_halts {x : Async σ ε ι α} {f : α → Async σ ε ι β} {now : Instant}
    {s s₁ s₂ : σ} {a : α} {first second : List (Program σ ε ι)} {failure : Option String}
    (hx : Runs x now s a s₁ first) (hf : Halts (f a) now s₁ s₂ second failure) :
    Halts (x >>= f) now s s₂ (first ++ second) failure := by
  intro k next
  change (x fun a => f a k).settle now next s = _
  rw [hx, hf]
  rfl

theorem runs_get (now : Instant) (s : σ) : Runs (get : Async σ ε ι σ) now s s s [] := by
  intro k next
  rfl

theorem runs_now (now : Instant) (s : σ) : Runs (Async.now : Async σ ε ι Instant) now s now s [] := by
  intro k next
  rfl

theorem runs_modify (f : σ → σ) (now : Instant) (s : σ) :
    Runs (modify f : Async σ ε ι Unit) now s () (f s) [] := by
  intro k next
  rfl

theorem runs_modify_of {f : σ → σ} {now : Instant} {s s' : σ} (made : f s = s') :
    Runs (modify f : Async σ ε ι Unit) now s () s' [] :=
  made ▸ runs_modify f now s

theorem runs_update {γ : Type} (f : Instant → σ → σ × γ) (now : Instant) (s : σ) :
    Runs (update f : Async σ ε ι γ) now s (f now s).2 (f now s).1 [] := by
  intro k next
  rfl

theorem runs_notify (e : ε) (now : Instant) (s : σ) :
    Runs (notify e : Async σ ε ι Unit) now s () s [] := by
  intro k next
  rfl

theorem fails_panic (why : String) (now : Instant) (s : σ) :
    Fails (panic why : Async σ ε ι α) now s s [] why := by
  intro k next
  rfl

theorem halts_sleepUntil (deadline : Instant) (now : Instant) (s : σ) :
    Halts (sleepUntil deadline : Async σ ε ι Unit) now s s [] none := by
  intro k next
  rfl

theorem halts_sleepFor (d : Duration) (now : Instant) (s : σ) :
    Halts (sleepFor d : Async σ ε ι Unit) now s s [] none :=
  (runs_now now s).bind_halts (halts_sleepUntil _ now s)

theorem halts_catchPanic (x : Async σ ε ι α) (now : Instant) (s : σ) :
    Halts (catchPanic x) now s s [] none := by
  intro k next
  rfl

theorem runs_spawn_discard (child : Async σ ε ι Unit) (now : Instant) (s : σ) :
    Runs (do let _ ← spawn child; pure () : Async σ ε ι Unit) now s () s [child.toProgram] := by
  intro k next
  rfl

end Async

end ActorSilo
