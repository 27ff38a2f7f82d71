import ActorSilo.Proofs.Changes
import ActorSilo.Proofs.CodeLogic

/-! # Calm code: changes that leave the lives of activations alone

Most of what the silo does — sending and taking messages, callbacks, the collection wheel,
turns starting and ending, the directory — changes nothing of the lives of its activations: no
record changes state, no grain is made, no shutdown begins, and the outcomes of starts stay as
they are (`World.SameLives`). A change the silo makes that leaves them alone is calm
(`World.Calm`). Calm code is proved once, as `SiloM.CalmTriple`, for every program logic that
admits calm changes and the calls of procedures other than the start of an activation
(`SiloM.Admissible`); `Program.Keeps` with the guarantee `World.Changes` is one of them, so calm
code is sound (`SiloM.Calm.sound`).
-/

namespace ActorSilo

namespace Activation

/-- What the life of an activation is made of: its state, whether its grain was made, and
whether and why it shuts down. -/
structure Life where
  state : ActivationState
  hasGrain : Bool
  shuttingDown : Bool
  reason : Option DeactivationReason

def life (a : Activation) : Life := ⟨a.state, a.hasGrain, a.shuttingDown, a.reason⟩

variable (a : Activation)

@[simp] theorem life_recordRunning (m : Message) (now : Instant) :
    (a.recordRunning m now).life = a.life := by
  unfold recordRunning; split <;> rfl

@[simp] theorem life_resetRunning (id : Nat) (now : Instant) :
    (a.resetRunning id now).2.life = a.life := by
  obtain ⟨_, _, _, shape, _⟩ := a.resetRunning_eq id now
  rw [shape]
  rfl

@[simp] theorem life_dequeue : a.dequeue.2.life = a.life := by
  unfold dequeue; split <;> rfl

@[simp] theorem life_takeOnIdle : a.takeOnIdle.2.life = a.life := by
  unfold takeOnIdle; split <;> rfl

@[simp] theorem life_delayDeactivation (d : Duration) (now : Instant) :
    (a.delayDeactivation d now).life = a.life := by
  unfold delayDeactivation; split
  · rfl
  · split <;> rfl

theorem life_of_enqueue {m : Message} {b : Activation} (queued : a.enqueue m = .ok b) :
    b.life = a.life := by
  unfold enqueue at queued
  split at queued
  · cases queued
  · cases queued
    rfl

theorem Reticketed.life {a b : Activation} (moved : a.Reticketed b) : b.life = a.life := by
  rw [← moved]
  rfl

end Activation

namespace World

variable {γ : Type}

/-- `w'` leaves the lives of the activations of `w` alone: each record keeps its life, and the
outcomes of starts are as they were. -/
structure SameLives (w w' : World γ) : Prop where
  records : Related (fun a b => b.life = a.life) w w'
  inits : w'.inits = w.inits

theorem SameLives.refl (w : World γ) : w.SameLives w :=
  ⟨Related.refl (R := fun a b => b.life = a.life) (fun _ => rfl) w, rfl⟩

theorem SameLives.trans {w₁ w₂ w₃ : World γ} (first : w₁.SameLives w₂) (second : w₂.SameLives w₃) :
    w₁.SameLives w₃ :=
  ⟨first.records.trans (fun one two => two.trans one) second.records,
    second.inits.trans first.inits⟩

theorem SameLives.of_records {w w' : World γ} (records : w'.records = w.records)
    (inits : w'.inits = w.inits) : w.SameLives w' :=
  ⟨Related.of_records (R := fun a b => b.life = a.life) (fun _ => rfl) records, inits⟩

theorem SameLives.putRecord {w w' : World γ} (same : w.SameLives w') {slot : Nat} {a b : Activation}
    (found : w.record? slot = some a) (kept : b.life = a.life) : w.SameLives (w'.putRecord slot b) :=
  ⟨same.records.putRecord slot found kept, same.inits⟩

/-- A change the silo makes that leaves the lives of its activations alone. -/
def Calm (w w' : World γ) : Prop := w.Changes w' ∧ w.SameLives w'

theorem Calm.refl (w : World γ) : w.Calm w := ⟨.refl, .refl w⟩

theorem Calm.outside {w w' : World γ} (records : w'.records = w.records) (config : w'.config = w.config)
    (types : w'.types = w.types) (registry : w'.registry = w.registry)
    (registeredSlots : w'.registeredSlots = w.registeredSlots) (directory : w'.directory = w.directory)
    (collector : w'.collector = w.collector) (inits : w'.inits = w.inits) : w.Calm w' :=
  ⟨.single (.outside records config types registry registeredSlots directory collector),
    .of_records records inits⟩

theorem Calm.record {w : World γ} {slot : Nat} {a b : Activation} (found : w.record? slot = some a)
    (step : a.Step w.config b) (kept : b.life = a.life) : w.Calm (w.putRecord slot b) :=
  ⟨(Change.record found step).changes, (SameLives.refl w).putRecord found kept⟩

theorem Calm.trans {w₁ w₂ w₃ : World γ} (first : w₁.Calm w₂) (second : w₂.Calm w₃) : w₁.Calm w₃ :=
  ⟨first.1.trans second.1, first.2.trans second.2⟩

theorem Calm.leave {w : World γ} {slot : Nat} {a : Activation} (found : w.record? slot = some a) :
    w.Calm { w with
      registry := (w.registry.remove a).1
      registeredSlots := w.registeredSlots.filter (·.1 != a.id) } :=
  ⟨(Change.leave found).changes, .of_records rfl rfl⟩

theorem Calm.directory {w : World γ} {d : Directory} (step : w.directory.Step d) :
    w.Calm { w with directory := d } :=
  ⟨(Change.directory step).changes, .of_records rfl rfl⟩

theorem Calm.reticket {w : World γ} {slot : Nat} {a b : Activation} (found : w.record? slot = some a)
    (moved : a.Reticketed b) (c : Collector) : w.Calm { w.putRecord slot b with collector := c } :=
  ⟨(Change.wheel c).changes.tail (Change.reticket found moved),
    ((SameLives.refl w).putRecord found moved.life).records, rfl⟩

end World

namespace SiloM

variable {γ α β : Type}

/-- A program logic calm code holds in: it admits every calm change, and a new task may call any
procedure but the start of an activation. -/
def Admissible (L : Program.Logic (World γ) Event Proc) : Prop :=
  (∀ w w' : World γ, w.Calm w' → L.Step w w') ∧ ∀ p : Proc, (∀ slot, p ≠ .init slot) → L.Calls p

/-- Calm code: started in a world where `P` holds, it hands each result `a` to what follows in a
world where `Q a` holds, in every logic calm code holds in. -/
def CalmTriple (P : World γ → Prop) (x : SiloM γ α) (Q : α → World γ → Prop) : Prop :=
  ∀ L : Program.Logic (World γ) Event Proc, Admissible L → Async.Spec L P x Q

def Calm (x : SiloM γ α) : Prop := CalmTriple (fun _ => True) x fun _ _ => True

theorem admissible_keeps : Admissible (.keeps (fun _ => True) World.Changes : Program.Logic (World γ) Event Proc) :=
  ⟨fun _ _ calm => calm.1, fun _ _ => trivial⟩

theorem CalmTriple.triple {P : World γ → Prop} {x : SiloM γ α} {Q : α → World γ → Prop}
    (calm : CalmTriple P x Q) : Triple P x Q :=
  (calm _ admissible_keeps).triple

theorem Calm.sound {x : SiloM γ α} (calm : Calm x) : Sound x := calm.triple

/-- Calm code of a task: run alone and outside guards, it may also call any procedure but the
start of an activation. -/
def CalmTask (x : SiloM γ α) : Prop :=
  ∀ L : Program.Logic (World γ) Event Proc, Admissible L →
    Async.TaskSpec L (fun _ => True) x fun _ _ => True

theorem Calm.task {x : SiloM γ α} (calm : Calm x) : CalmTask x :=
  fun L admissible => (calm L admissible).task

theorem CalmTask.sound {x : SiloM γ α} (calm : CalmTask x) : Sound x := calm _ admissible_keeps

/-! ## Calm code is built from calm code -/

theorem Calm.bind {x : SiloM γ α} {f : α → SiloM γ β} (first : Calm x) (second : ∀ a, Calm (f a)) :
    Calm (x >>= f) :=
  fun L admissible => (first L admissible).bind fun a => second a L admissible

theorem calm_pure (a : α) : Calm (pure a : SiloM γ α) := fun _ _ => Async.Spec.pure (Q := fun _ _ => True) a

theorem calm_ite {c : Prop} [Decidable c] {x y : SiloM γ α} (yes : Calm x) (no : Calm y) :
    Calm (if c then x else y) := by
  split
  · exact yes
  · exact no

theorem calm_get : Calm (Async.get : SiloM γ (World γ)) := fun _ _ => Async.Spec.get (Q := fun _ _ => True)

theorem calm_now : Calm (Async.now : SiloM γ Instant) :=
  fun _ _ => (Async.Spec.now (Q := fun _ _ => True)).mono (fun _ _ _ => trivial) fun _ _ _ => trivial

theorem calm_modify {f : World γ → World γ} (change : ∀ w : World γ, w.Calm (f w)) :
    Calm (Async.modify f : SiloM γ Unit) :=
  fun _ admissible => (Async.Spec.modify (Q := fun _ _ => True)).mono
    (fun w _ => ⟨admissible.1 _ _ (change w), trivial⟩) fun _ _ _ => trivial

theorem calm_modifyAt {f : Instant → World γ → World γ} (change : ∀ t (w : World γ), w.Calm (f t w)) :
    Calm (Async.modifyAt f : SiloM γ Unit) :=
  fun _ admissible => (Async.Spec.modifyAt (Q := fun _ _ => True)).mono
    (fun w _ t => ⟨admissible.1 _ _ (change t w), trivial⟩) fun _ _ _ => trivial

theorem calm_update {f : Instant → World γ → World γ × α} (change : ∀ t (w : World γ), w.Calm (f t w).1) :
    Calm (Async.update f : SiloM γ α) :=
  fun _ admissible => (Async.Spec.update (Q := fun _ _ => True)).mono
    (fun w _ t => ⟨admissible.1 _ _ (change t w), trivial⟩) fun _ _ _ => trivial

theorem calm_notify (e : Event) : Calm (Async.notify e : SiloM γ Unit) :=
  fun _ _ => Async.Spec.notify (Q := fun _ _ => True) e

theorem calm_cancel (id : Nat) : Calm (Async.cancel id : SiloM γ Unit) :=
  fun _ _ => Async.Spec.cancel (Q := fun _ _ => True) id

theorem calm_panic (why : String) : Calm (Async.panic why : SiloM γ α) := fun _ _ => Async.Spec.panic why

theorem calm_waitFor (e : Event) (ready : World γ → Bool) : Calm (Async.waitFor e ready) :=
  fun _ _ => Async.Spec.waitFor e ready

theorem calm_waitToTake (e : Event) (ready : World γ → Bool) : Calm (Async.waitToTake e ready) :=
  fun _ _ => Async.Spec.waitToTake e ready

theorem calm_sleepUntil (deadline : Instant) : Calm (Async.sleepUntil deadline : SiloM γ Unit) :=
  fun _ _ => Async.Spec.sleepUntil deadline

theorem calm_sleepFor (d : Duration) : Calm (Async.sleepFor d : SiloM γ Unit) :=
  fun _ _ => Async.Spec.sleepFor d

theorem calm_spawn {child : SiloM γ Unit} (calm : CalmTask child) : Calm (Async.spawn child) :=
  fun L admissible => Async.Spec.spawn (calm L admissible)

theorem calm_launch {p : Proc} (other : ∀ slot, p ≠ .init slot) : Calm (launch p : SiloM γ Unit) :=
  fun _ admissible => (Async.Spec.launch (admissible.2 p other)).bind fun _ =>
    Async.Spec.pure (Q := fun _ _ => True) ()

theorem calm_forM {l : List α} {f : α → SiloM γ PUnit} (each : ∀ a ∈ l, Calm (f a)) : Calm (l.forM f) :=
  fun L admissible => Async.Spec.forM l fun a member => each a member L admissible

/-! ## The code of a task

Run alone and outside guards, the code of a task may also call a procedure, any but the start of
an activation. -/

theorem CalmTask.bind {x : SiloM γ α} {f : α → SiloM γ β} (first : CalmTask x)
    (second : ∀ a, CalmTask (f a)) : CalmTask (x >>= f) :=
  fun L admissible => (first L admissible).bind fun a => second a L admissible

theorem calmTask_ite {c : Prop} [Decidable c] {x y : SiloM γ α} (yes : CalmTask x) (no : CalmTask y) :
    CalmTask (if c then x else y) := by
  split
  · exact yes
  · exact no

theorem calmTask_call {p : Proc} (other : ∀ slot, p ≠ .init slot) : CalmTask (Async.call p : SiloM γ Unit) :=
  fun _ admissible => Async.TaskSpec.call (admissible.2 p other)

/-! ## Code that reads the world before it changes it

Within one stretch nothing else runs, so what was read is still so when the change is made. -/

theorem CalmTriple.bind {P : World γ → Prop} {x : SiloM γ α} {f : α → SiloM γ β}
    {R : α → World γ → Prop} {Q : β → World γ → Prop} (first : CalmTriple P x R)
    (second : ∀ a, CalmTriple (R a) (f a) Q) : CalmTriple P (x >>= f) Q :=
  fun L admissible => (first L admissible).bind fun a => second a L admissible

theorem CalmTriple.mono {P P' : World γ → Prop} {x : SiloM γ α} {Q Q' : α → World γ → Prop}
    (calm : CalmTriple P x Q) (pre : ∀ w, P' w → P w) (post : ∀ a w, Q a w → Q' a w) :
    CalmTriple P' x Q' :=
  fun L admissible => (calm L admissible).mono pre post

theorem Calm.triple {x : SiloM γ α} {P : World γ → Prop} (calm : Calm x) :
    CalmTriple P x fun _ _ => True :=
  calm.mono (fun _ _ => trivial) fun _ _ _ => trivial

theorem calmTriple_get {P : World γ → Prop} :
    CalmTriple P (Async.get : SiloM γ (World γ)) fun r w => P w ∧ r = w :=
  fun _ _ => (Async.Spec.get (Q := fun r w => P w ∧ r = w)).mono (fun _ holds => ⟨holds, rfl⟩)
    fun _ _ h => h

theorem calmTriple_read {P : World γ → Prop} : CalmTriple P (Async.get : SiloM γ (World γ)) fun _ => P :=
  fun L _ _ w holds _ rest => L.read fun _ => rest w w holds

theorem calmTriple_now {P : World γ → Prop} : CalmTriple P (Async.now : SiloM γ Instant) fun _ w => P w :=
  fun L _ _ w holds _ rest => L.read fun t => rest t w holds

theorem calmTriple_modify {P : World γ → Prop} {f : World γ → World γ}
    (change : ∀ w, P w → w.Calm (f w)) : CalmTriple P (Async.modify f) fun _ _ => True :=
  fun _ admissible => (Async.Spec.modify (Q := fun _ _ => True)).mono
    (fun w holds => ⟨admissible.1 _ _ (change w holds), trivial⟩) fun _ _ _ => trivial

theorem calmTriple_update {P : World γ → Prop} {f : Instant → World γ → World γ × α}
    (change : ∀ t w, P w → w.Calm (f t w).1) : CalmTriple P (Async.update f) fun _ _ => True :=
  fun _ admissible => (Async.Spec.update (Q := fun _ _ => True)).mono
    (fun w holds t => ⟨admissible.1 _ _ (change t w holds), trivial⟩) fun _ _ _ => trivial

/-! ## Records -/

theorem calm_record? (slot : Nat) : Calm (record? slot : SiloM γ (Option Activation)) :=
  calm_get.bind fun _ => calm_pure _

theorem calmTriple_record? {P : World γ → Prop} (slot : Nat) :
    CalmTriple P (record? slot : SiloM γ (Option Activation)) fun r w => P w ∧ r = w.record? slot :=
  fun L _ _ w holds _ rest => L.read fun _ => rest _ w ⟨holds, rfl⟩

theorem calm_changeRecordWith {w : World γ} {slot : Nat} {f : Activation → Activation}
    (step : ∀ a, w.record? slot = some a → a.Step w.config (f a) ∧ (f a).life = a.life) :
    w.Calm (match w.record? slot with
      | some a => w.putRecord slot (f a)
      | none => w) := by
  cases found : w.record? slot with
  | none => exact .refl w
  | some a => exact World.Calm.record found (step a found).1 (step a found).2

theorem calm_changeRecord {slot : Nat} {f : Instant → Activation → Activation}
    (step : ∀ (w : World γ) t a, w.record? slot = some a → a.Step w.config (f t a))
    (kept : ∀ t a, (f t a).life = a.life) : Calm (changeRecord slot f : SiloM γ Unit) :=
  calm_modifyAt fun t w => calm_changeRecordWith fun a found => ⟨step w t a found, kept t a⟩

theorem calmTriple_changeRecord {P : World γ → Prop} {slot : Nat} {f : Instant → Activation → Activation}
    (step : ∀ (w : World γ) t a, P w → w.record? slot = some a → a.Step w.config (f t a))
    (kept : ∀ t a, (f t a).life = a.life) :
    CalmTriple P (changeRecord slot f : SiloM γ Unit) fun _ _ => True :=
  fun _ admissible => (Async.Spec.modifyAt (Q := fun _ _ => True)).mono
    (fun w holds t => ⟨admissible.1 _ _
      (calm_changeRecordWith fun a found => ⟨step w t a holds found, kept t a⟩), trivial⟩)
    fun _ _ _ => trivial

theorem calmTriple_changeRecord_found {slot : Nat} {a : Activation}
    {f : Instant → Activation → Activation}
    (step : ∀ (w : World γ) t, w.record? slot = some a → a.Step w.config (f t a))
    (kept : ∀ t, (f t a).life = a.life) :
    CalmTriple (fun w : World γ => w.record? slot = some a) (changeRecord slot f : SiloM γ Unit)
      fun _ w => ∃ t, w.record? slot = some (f t a) := by
  refine fun _ admissible => Async.Spec.modifyAt.mono (fun w found t => ?_) fun _ _ h => h
  rw [found]
  exact ⟨admissible.1 _ _ (World.Calm.record found (step w t found) (kept t)), t,
    World.record?_putRecord_of_found found _⟩

theorem calmTriple_withRecord {P : World γ → Prop} {slot : Nat} {dflt : α}
    {f : Instant → Activation → Activation × α}
    (step : ∀ (w : World γ) t a, P w → w.record? slot = some a →
      (f t a).1 = a ∨ a.Step w.config (f t a).1 ∧ (f t a).1.life = a.life) :
    CalmTriple P (withRecord slot dflt f : SiloM γ α) fun _ _ => True := by
  refine calmTriple_update fun t w holds => ?_
  cases found : w.record? slot with
  | none => exact .refl w
  | some a =>
    rcases step w t a holds found with same | ⟨changed, kept⟩
    · show w.Calm (w.putRecord slot (f t a).1)
      rw [same, World.putRecord_of_found found]
      exact .refl w
    · exact World.Calm.record found changed kept

theorem calm_withRecord {slot : Nat} {dflt : α} {f : Instant → Activation → Activation × α}
    (step : ∀ (w : World γ) t a, w.record? slot = some a →
      (f t a).1 = a ∨ a.Step w.config (f t a).1 ∧ (f t a).1.life = a.life) :
    Calm (withRecord slot dflt f : SiloM γ α) :=
  calmTriple_withRecord fun w t a _ found => step w t a found

theorem calm_freshId : Calm (freshId : SiloM γ Nat) :=
  calm_update fun _ _ => .outside rfl rfl rfl rfl rfl rfl rfl rfl

end SiloM

end ActorSilo
