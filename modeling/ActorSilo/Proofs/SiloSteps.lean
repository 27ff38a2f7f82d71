import ActorSilo.Silo.Lifecycle
import ActorSilo.Proofs.Settle
import ActorSilo.Proofs.Turns

/-! # What the dispatcher's procedures do in one step

Each procedure of the dispatcher runs, between two points at which its task may give up the
thread, as one atomic step (`Async.Runs`). Code that leaves the turn bookkeeping of every record
alone is `Quiet`, and code that may also move records along their lifecycles is `Moving`. The
pump starts the turns of the oldest waiting requests (`runs_pumpMailbox`), and scheduling or
rescheduling a collection moves only a record's ticket (`scheduleCollection_cases`,
`rescheduleCollection_cases`).
-/

namespace ActorSilo

namespace Program

variable {σ ε : Type}

/-- The turn a started task runs, when it runs one: the slot of the record and the request. -/
def turn? : Program σ ε Proc → Option (Nat × Message)
  | .call (.turn slot m) .done => some (slot, m)
  | _ => none

end Program

/-- The turns that the started tasks run, in the order they were started. -/
def turnStarts {σ ε : Type} (started : List (Program σ ε Proc)) : List (Nat × Message) :=
  started.filterMap Program.turn?

@[simp] theorem turnStarts_nil {σ ε : Type} : turnStarts ([] : List (Program σ ε Proc)) = [] := rfl

@[simp] theorem turnStarts_append {σ ε : Type} (first second : List (Program σ ε Proc)) :
    turnStarts (first ++ second) = turnStarts first ++ turnStarts second := by
  simp [turnStarts]

namespace World

variable {γ : Type}

theorem record?_putRecord_self (w : World γ) (slot : Nat) (a : Activation) :
    (w.putRecord slot a).record? slot = (w.record? slot).map fun _ => a := by
  unfold record? putRecord
  rw [Array.getElem?_setIfInBounds]
  by_cases inside : slot < w.records.size <;> simp [inside]

theorem record?_putRecord_ne (w : World γ) {slot i : Nat} (a : Activation) (other : slot ≠ i) :
    (w.putRecord slot a).record? i = w.record? i := by
  unfold record? putRecord
  rw [Array.getElem?_setIfInBounds]
  simp [other]

theorem putRecord_records_self {w : World γ} {slot : Nat} {a : Activation}
    (found : w.record? slot = some a) : (w.putRecord slot a).records = w.records := by
  apply Array.ext_getElem?
  intro i
  unfold putRecord
  rw [Array.getElem?_setIfInBounds]
  split
  · rename_i same
    subst same
    unfold record? at found
    have inside : slot < w.records.size := (Array.getElem?_eq_some_iff.mp found).1
    simp only [inside, if_true]
    exact found.symm
  · rfl

@[simp] theorem putRecord_putRecord (w : World γ) (slot : Nat) (a b : Activation) :
    (w.putRecord slot a).putRecord slot b = w.putRecord slot b := by
  simp [putRecord]

theorem record?_putRecord_of_found {w : World γ} {slot : Nat} {a : Activation}
    (found : w.record? slot = some a) (b : Activation) : (w.putRecord slot b).record? slot = some b := by
  rw [record?_putRecord_self, found]
  rfl

theorem putRecord_records_congr {w₁ w₂ : World γ} (same : w₁.records = w₂.records) (slot : Nat)
    (a : Activation) : (w₁.putRecord slot a).records = (w₂.putRecord slot a).records := by
  simp [putRecord, same]

/-- Slot by slot, the records of `w'` are those of `w`, each changed as `R` allows. -/
def Related (R : Activation → Activation → Prop) (w w' : World γ) : Prop :=
  ∀ slot, Option.Rel R (w.record? slot) (w'.record? slot)

section Related

variable {R : Activation → Activation → Prop}

theorem Related.refl (refl : ∀ a, R a a) (w : World γ) : Related R w w := by
  intro slot
  cases w.record? slot with
  | none => exact .none
  | some a => exact .some (refl a)

theorem Related.of_records (refl : ∀ a, R a a) {w w' : World γ} (same : w'.records = w.records) :
    Related R w w' := by
  intro slot
  simp only [record?, same]
  exact Related.refl refl w slot

theorem Related.trans (trans : ∀ {a b c}, R a b → R b c → R a c) {w₁ w₂ w₃ : World γ}
    (first : Related R w₁ w₂) (second : Related R w₂ w₃) : Related R w₁ w₃ := by
  intro slot
  have one := first slot
  have two := second slot
  generalize w₁.record? slot = x₁ at one ⊢
  generalize w₂.record? slot = x₂ at one two
  generalize w₃.record? slot = x₃ at two ⊢
  cases one with
  | none => exact two
  | some r₁ =>
    cases two with
    | some r₂ => exact .some (trans r₁ r₂)

theorem Related.mono {S : Activation → Activation → Prop} (weaker : ∀ {a b}, R a b → S a b)
    {w w' : World γ} (related : Related R w w') : Related S w w' := by
  intro slot
  have rel := related slot
  generalize w.record? slot = x at rel ⊢
  generalize w'.record? slot = x' at rel ⊢
  cases rel with
  | none => exact .none
  | some r => exact .some (weaker r)

theorem Related.putRecord {w w' : World γ} (related : Related R w w') (slot : Nat)
    {a b : Activation} (found : w.record? slot = some a) (changed : R a b) :
    Related R w (w'.putRecord slot b) := by
  intro i
  by_cases here : slot = i
  · subst here
    have before := related slot
    rw [found] at before
    rw [record?_putRecord_self, found]
    generalize w'.record? slot = x at before ⊢
    cases before with
    | some _ => exact .some changed
  · rw [record?_putRecord_ne _ _ here]
    exact related i

theorem Related.putRecord_both (refl : ∀ a, R a a) {u v : World γ} (related : Related R u v)
    {slot : Nat} {a : Activation} (found : u.record? slot = some a) (x : Activation) :
    Related R (u.putRecord slot x) (v.putRecord slot x) := by
  intro i
  by_cases here : slot = i
  · subst here
    have before := related slot
    rw [found] at before
    rw [record?_putRecord_self, record?_putRecord_self, found]
    generalize v.record? slot = y at before ⊢
    cases before with
    | some _ => exact .some (refl x)
  · rw [record?_putRecord_ne _ _ here, record?_putRecord_ne _ _ here]
    exact related i

theorem Related.found {w w' : World γ} (related : Related R w w') {slot : Nat} {a : Activation}
    (found : w.record? slot = some a) : ∃ b, w'.record? slot = some b ∧ R a b := by
  have rel := related slot
  rw [found] at rel
  generalize w'.record? slot = y at rel ⊢
  cases rel with
  | some r => exact ⟨_, rfl, r⟩

theorem Related.missing {w w' : World γ} (related : Related R w w') {slot : Nat}
    (missing : w.record? slot = none) : w'.record? slot = none := by
  have rel := related slot
  rw [missing] at rel
  generalize w'.record? slot = y at rel ⊢
  cases rel
  rfl

theorem Related.preserves {P : Activation → Prop} (keeps : ∀ {a b}, R a b → P a → P b)
    {w w' : World γ} (related : Related R w w') (holds : ∀ slot a, w.record? slot = some a → P a) :
    ∀ slot b, w'.record? slot = some b → P b := by
  intro slot b found
  have rel := related slot
  rw [found] at rel
  rcases before : w.record? slot with _ | a
  · rw [before] at rel
    cases rel
  · rw [before] at rel
    cases rel with
    | some r => exact keeps r (holds slot a before)

end Related

/-- The records of two worlds, slot by slot, have the same turn bookkeeping. -/
def SameTurns (w w' : World γ) : Prop := Related Activation.SameTurns w w'

/-- Slot by slot, the records of `w'` are those of `w` moved along their lifecycles (see
`Activation.LifecycleMove`). -/
def Moves (w w' : World γ) : Prop := Related Activation.LifecycleMove w w'

theorem SameTurns.refl (w : World γ) : w.SameTurns w := Related.refl Activation.SameTurns.refl w

theorem SameTurns.of_records {w w' : World γ} (same : w'.records = w.records) : w.SameTurns w' :=
  Related.of_records Activation.SameTurns.refl same

theorem SameTurns.trans {w₁ w₂ w₃ : World γ} (first : w₁.SameTurns w₂) (second : w₂.SameTurns w₃) :
    w₁.SameTurns w₃ :=
  Related.trans (R := Activation.SameTurns) Activation.SameTurns.trans first second

theorem SameTurns.putRecord {w w' : World γ} (same : w.SameTurns w') (slot : Nat)
    {a a' : Activation} (existing : w.record? slot = some a) (kept : Activation.SameTurns a a') :
    w.SameTurns (w'.putRecord slot a') :=
  Related.putRecord same slot existing kept

theorem SameTurns.putRecord_both {w : World γ} {slot : Nat} {a : Activation}
    (found : w.record? slot = some a) {x y : Activation} (kept : x.SameTurns y) :
    (w.putRecord slot x).SameTurns (w.putRecord slot y) := by
  have again := (SameTurns.refl (w.putRecord slot x)).putRecord slot
    (record?_putRecord_of_found found x) kept
  rwa [putRecord_putRecord] at again

theorem SameTurns.moves {w w' : World γ} (same : w.SameTurns w') : w.Moves w' :=
  Related.mono Activation.SameTurns.lifecycleMove same

theorem Moves.refl (w : World γ) : w.Moves w := (SameTurns.refl w).moves

theorem Moves.trans {w₁ w₂ w₃ : World γ} (first : w₁.Moves w₂) (second : w₂.Moves w₃) :
    w₁.Moves w₃ :=
  Related.trans (R := Activation.LifecycleMove) Activation.LifecycleMove.trans first second

theorem Moves.putRecord {w w' : World γ} (moves : w.Moves w') (slot : Nat) {a b : Activation}
    (found : w.record? slot = some a) (moved : a.LifecycleMove b) : w.Moves (w'.putRecord slot b) :=
  Related.putRecord moves slot found moved

def TurnsSafe (w : World γ) : Prop := ∀ slot a, w.record? slot = some a → a.TurnsSafe

def NotStranded (w : World γ) : Prop := ∀ slot a, w.record? slot = some a → a.NotStranded

theorem Moves.notStranded {w w' : World γ} (moves : w.Moves w') (notStranded : w.NotStranded) :
    w'.NotStranded :=
  Related.preserves (R := Activation.LifecycleMove) Activation.LifecycleMove.notStranded moves
    notStranded

end World

namespace SiloM

variable {γ : Type}

open Async

/-- Code that, from any world, runs through to its end in one step, keeps the turn bookkeeping
of every record and starts no turn. -/
def Quiet {α : Type} (x : SiloM γ α) : Prop :=
  ∀ now (w : World γ), ∃ a w' started, Runs x now w a w' started ∧ w.SameTurns w' ∧
    turnStarts started = []

theorem quiet_pure {α : Type} (a : α) : Quiet (pure a : SiloM γ α) :=
  fun now w => ⟨a, w, [], runs_pure a now w, .refl w, rfl⟩

theorem Quiet.bind {α β : Type} {x : SiloM γ α} {f : α → SiloM γ β} (first : Quiet x)
    (rest : ∀ a, Quiet (f a)) : Quiet (x >>= f) := by
  intro now w
  obtain ⟨a, w₁, started₁, runs₁, same₁, quiet₁⟩ := first now w
  obtain ⟨b, w₂, started₂, runs₂, same₂, quiet₂⟩ := rest a now w₁
  exact ⟨b, w₂, started₁ ++ started₂, runs₁.bind runs₂, same₁.trans same₂, by simp [quiet₁, quiet₂]⟩

theorem quiet_get : Quiet (Async.get : SiloM γ (World γ)) :=
  fun now w => ⟨w, w, [], runs_get now w, .refl w, rfl⟩

theorem quiet_modify {f : World γ → World γ} (records : ∀ w, (f w).records = w.records) :
    Quiet (Async.modify f : SiloM γ Unit) :=
  fun now w => ⟨(), f w, [], runs_modify f now w, .of_records (records w), rfl⟩

theorem quiet_notify (e : Event) : Quiet (Async.notify e : SiloM γ Unit) :=
  fun now w => ⟨(), w, [], runs_notify e now w, .refl w, rfl⟩

theorem runs_launch (p : Proc) (now : Instant) (w : World γ) :
    Runs (launch p : SiloM γ Unit) now w () w [(Async.call p).toProgram] := by
  intro k next
  rfl

theorem quiet_launch {p : Proc} (notTurn : ∀ slot m, p ≠ .turn slot m) :
    Quiet (launch p : SiloM γ Unit) := by
  intro now w
  refine ⟨(), w, _, runs_launch p now w, .refl w, ?_⟩
  cases p with
  | turn slot m => exact absurd rfl (notTurn slot m)
  | _ => rfl

theorem quiet_forM {α : Type} (xs : List α) {f : α → SiloM γ Unit} (each : ∀ x, Quiet (f x)) :
    Quiet (xs.forM f) := by
  induction xs with
  | nil => exact quiet_pure ()
  | cons x rest ih => exact (each x).bind fun _ => ih

/-! ## Reading and changing records -/

theorem runs_record? (slot : Nat) (now : Instant) (w : World γ) :
    Runs (record? slot : SiloM γ (Option Activation)) now w (w.record? slot) w [] := by
  intro k next
  rfl

theorem runs_changeRecord {slot : Nat} {a : Activation} {w : World γ} (found : w.record? slot = some a)
    (f : Instant → Activation → Activation) (now : Instant) :
    Runs (changeRecord slot f : SiloM γ Unit) now w () (w.putRecord slot (f now a)) [] := by
  intro k next
  simp [changeRecord, Async.modifyAt, found]

theorem runs_changeRecord_none {slot : Nat} {w : World γ} (missing : w.record? slot = none)
    (f : Instant → Activation → Activation) (now : Instant) :
    Runs (changeRecord slot f : SiloM γ Unit) now w () w [] := by
  intro k next
  simp [changeRecord, Async.modifyAt, missing]

theorem runs_withRecord {α : Type} {slot : Nat} {a : Activation} {w : World γ}
    (found : w.record? slot = some a) (dflt : α) (f : Instant → Activation → Activation × α)
    (now : Instant) :
    Runs (withRecord slot dflt f : SiloM γ α) now w (f now a).2 (w.putRecord slot (f now a).1) [] := by
  intro k next
  simp [withRecord, Async.update, found]

theorem runs_withRecord_none {α : Type} {slot : Nat} {w : World γ} (missing : w.record? slot = none)
    (dflt : α) (f : Instant → Activation → Activation × α) (now : Instant) :
    Runs (withRecord slot dflt f : SiloM γ α) now w dflt w [] := by
  intro k next
  simp [withRecord, Async.update, missing]

theorem quiet_changeRecord {f : Instant → Activation → Activation}
    (keeps : ∀ now a, Activation.SameTurns a (f now a)) (slot : Nat) :
    Quiet (changeRecord slot f : SiloM γ Unit) := by
  intro now w
  rcases found : w.record? slot with _ | a
  · exact ⟨(), w, [], runs_changeRecord_none found f now, .refl w, rfl⟩
  · exact ⟨(), _, [], runs_changeRecord found f now,
      (World.SameTurns.refl w).putRecord slot found (keeps now a), rfl⟩

theorem quiet_withRecord {α : Type} {f : Instant → Activation → Activation × α} (dflt : α)
    (keeps : ∀ now a, Activation.SameTurns a (f now a).1) (slot : Nat) :
    Quiet (withRecord slot dflt f : SiloM γ α) := by
  intro now w
  rcases found : w.record? slot with _ | a
  · exact ⟨dflt, w, [], runs_withRecord_none found dflt f now, .refl w, rfl⟩
  · exact ⟨_, _, [], runs_withRecord found dflt f now,
      (World.SameTurns.refl w).putRecord slot found (keeps now a), rfl⟩

/-! ## Sending -/

theorem quiet_ite {α : Type} (c : Prop) [Decidable c] {x y : SiloM γ α} (hx : Quiet x)
    (hy : Quiet y) : Quiet (if c then x else y) := by
  split
  · exact hx
  · exact hy

theorem quiet_transport (m : Message) : Quiet (transport m : SiloM γ Unit) := by
  refine quiet_get.bind fun w => ?_
  have loopback : Quiet (do
      Async.modify fun w : World γ => { w with inbound := w.inbound ++ [m] }
      Async.notify Event.inbound : SiloM γ Unit) :=
    Quiet.bind (quiet_modify fun _ => rfl) fun _ => quiet_notify _
  have out : Quiet (Async.modify fun w : World γ => { w with outbound := w.outbound.map (· ++ [m]) }) :=
    quiet_modify fun _ => rfl
  -- the target silo, when there is one, decides between the loopback channel and the route out
  dsimp only
  split <;> exact quiet_ite _ loopback out

theorem quiet_sendMessage (m : Message) : Quiet (sendMessage m : SiloM γ Unit) := by
  unfold sendMessage
  split
  · split
    · exact quiet_transport m
    · exact quiet_pure ()
  · split
    · exact quiet_transport m
    · exact quiet_launch fun _ _ => by simp

theorem quiet_reject (m : Message) (kind : RejectionKind) (reason : String) :
    Quiet (reject m kind reason : SiloM γ Unit) := by
  unfold reject
  split
  · exact quiet_sendMessage _
  · exact quiet_pure ()

theorem quiet_tryForward (m : Message) (target : Option ActivationAddress) :
    Quiet (tryForward m target : SiloM γ Bool) := by
  refine quiet_get.bind fun w => ?_
  split
  · exact quiet_pure false
  · exact (quiet_sendMessage _).bind fun _ => quiet_pure true

theorem quiet_redirect (m : Message) (forwardTo : Option ActivationAddress) (reason : String) :
    Quiet (redirect m forwardTo reason : SiloM γ Unit) := by
  unfold redirect
  dsimp only
  split
  · refine (quiet_tryForward _ _).bind fun sent => ?_
    split
    · exact quiet_pure ()
    · exact quiet_reject _ _ _
  · exact quiet_reject _ _ _

theorem quiet_replyDeadlock (m : Message) (a : Activation) :
    Quiet (replyDeadlock m a : SiloM γ Unit) := by
  unfold replyDeadlock sendResponse
  split
  · exact quiet_sendMessage _
  · exact quiet_pure ()

theorem quiet_invalidateCache (g : GrainId) : Quiet (invalidateCache g : SiloM γ Unit) :=
  quiet_modify fun _ => rfl

theorem quiet_unregisterAddress (a : ActivationAddress) :
    Quiet (unregisterAddress a : SiloM γ Unit) :=
  quiet_modify fun w => by split <;> rfl

theorem quiet_runIdleActions (slot : Nat) (actions : List IdleAction) :
    Quiet (runIdleActions slot actions : SiloM γ Unit) := by
  refine quiet_forM actions fun action => ?_
  cases action with
  | destroy => exact quiet_launch fun _ _ => by simp
  | mark _ => exact quiet_pure ()

theorem quiet_takeOnIdle (slot : Nat) : Quiet (takeOnIdle slot : SiloM γ (List IdleAction)) := by
  refine quiet_withRecord [] (fun _ a => ?_) slot
  have kept : a.SameTurns a.takeOnIdle.2 := by
    unfold Activation.takeOnIdle
    split
    · exact ⟨rfl, rfl, rfl, rfl, rfl⟩
    · exact .refl a
  revert kept
  cases a.takeOnIdle
  exact id

theorem quiet_notifyDeactivated (slot : Nat) : Quiet (notifyDeactivated slot : SiloM γ Unit) := by
  refine Quiet.bind (quiet_changeRecord (fun _ _ => ?_) slot) fun _ => quiet_notify _
  exact ⟨rfl, rfl, rfl, rfl, rfl⟩

/-! ## The collection wheel -/

theorem runs_bind_record? {β : Type} {slot : Nat} {f : Option Activation → SiloM γ β} {now : Instant}
    {w w' : World γ} {b : β} {started : List (Program (World γ) Event Proc)}
    (rest : Runs (f (w.record? slot)) now w b w' started) :
    Runs (record? slot >>= f) now w b w' started :=
  (runs_record? slot now w).bind rest

theorem fails_bind_record? {β : Type} {slot : Nat} {f : Option Activation → SiloM γ β} {now : Instant}
    {w w' : World γ} {started : List (Program (World γ) Event Proc)} {why : String}
    (rest : Fails (f (w.record? slot)) now w w' started why) :
    Fails (record? slot >>= f) now w w' started why :=
  (runs_record? slot now w).bind_fails rest

end SiloM

namespace Collector

theorem add_sameTurns (c : Collector) (a : Activation) (t : Nat) : a.SameTurns (c.add a t).2 :=
  ⟨rfl, rfl, rfl, rfl, rfl⟩

theorem removeFrom_sameTurns (c : Collector) (a : Activation) (t : Nat) :
    a.SameTurns (c.removeFrom a t).2.1 := by
  unfold removeFrom
  split
  · split
    · exact ⟨rfl, rfl, rfl, rfl, rfl⟩
    · exact .refl a
  · exact .refl a

theorem cancel_sameTurns (c : Collector) (a : Activation) : a.SameTurns (c.cancel a).2.1 := by
  unfold cancel
  split
  · exact .refl a
  · split
    · exact .refl a
    · split
      · exact .refl a
      · exact removeFrom_sameTurns c a _

theorem reschedule_sameTurns {c : Collector} {a : Activation} {timeout : Duration} {now : Instant}
    {r : Collector × Activation × Bool} (moved : c.reschedule a timeout now = .ok r) :
    a.SameTurns r.2.1 := by
  unfold reschedule at moved
  split at moved
  · cases moved
    exact .refl a
  · split at moved
    · cases moved
      exact ⟨rfl, rfl, rfl, rfl, rfl⟩
    · split at moved
      · cases moved
        exact ⟨rfl, rfl, rfl, rfl, rfl⟩
      · rename_i old _ _
        -- past this point the old slot is given up, whatever the new ticket
        have taken := removeFrom_sameTurns c a old
        rcases ticket : c.ticketFor c.nextTicket timeout now with _ | (_ | new)
        all_goals rw [ticket] at moved
        · cases moved
        · cases moved
          exact taken.trans ⟨rfl, rfl, rfl, rfl, rfl⟩
        · dsimp only [bind, Except.bind] at moved
          split at moved
          · cases moved
            exact .refl a
          · split at moved
            · cases moved
              exact taken.trans ⟨rfl, rfl, rfl, rfl, rfl⟩
            · cases moved
              exact taken.trans (add_sameTurns (c.removeFrom a old).1 _ new)

theorem schedule_sameTurns {c : Collector} {a : Activation} {timeout : Duration} {now : Instant}
    {r : Collector × Activation} (placed : c.schedule a timeout now = .ok (.ok r)) :
    a.SameTurns r.2 := by
  unfold schedule at placed
  split at placed
  · cases placed
  · split at placed
    · cases placed
      exact .refl a
    · split at placed
      · cases placed
      · rcases ticket : c.ticketFor c.nextTicket timeout now with _ | (_ | t)
        all_goals rw [ticket] at placed
        · cases placed
        · cases placed
        · cases placed
          exact add_sameTurns c a t

end Collector

namespace SiloM

variable {γ : Type}

open Async

theorem World.SameTurns.putCollector {w : World γ} {slot : Nat} {a b : Activation}
    (found : w.record? slot = some a) (kept : a.SameTurns b) (c : Collector) :
    w.SameTurns { w.putRecord slot b with collector := c } :=
  ((World.SameTurns.refl w).putRecord slot found kept).trans (.of_records rfl)

theorem scheduleCollection_cases (slot : Nat) (now : Instant) (w : World γ) :
    (∃ w', Runs (scheduleCollection slot : SiloM γ Unit) now w () w' [] ∧ w.SameTurns w') ∨
      Fails (scheduleCollection slot : SiloM γ Unit) now w w [] ClockOverflow.message := by
  unfold scheduleCollection
  rcases found : w.record? slot with _ | a
  · refine .inl ⟨w, runs_bind_record? ?_, .refl w⟩
    rw [found]
    exact runs_pure () now w
  by_cases exempt : a.isExempt = true
  · refine .inl ⟨w, runs_bind_record? ?_, .refl w⟩
    rw [found]
    simp only [exempt, if_true]
    exact runs_pure () now w
  -- the wheel first tries to move the record, and schedules it afresh when that fails
  rcases moved : w.collector.reschedule a a.ageLimit now with _ | ⟨c, b, _ | _⟩
  · refine .inr (fails_bind_record? ?_)
    rw [found]
    simp only [exempt]
    refine (runs_get now w).bind_fails ((runs_now now w).bind_fails ?_)
    rw [moved]
    exact fails_panic _ now w
  · have keptMove := Collector.reschedule_sameTurns moved
    rcases placed : c.schedule b b.ageLimit now with _ | (_ | ⟨c', b'⟩)
    · refine .inr (fails_bind_record? ?_)
      rw [found]
      simp only [exempt]
      refine (runs_get now w).bind_fails ((runs_now now w).bind_fails ?_)
      rw [moved]
      dsimp only
      rw [placed]
      exact fails_panic _ now w
    · refine .inl ⟨_, runs_bind_record? ?_, World.SameTurns.putCollector found keptMove c⟩
      rw [found]
      simp only [exempt]
      refine (runs_get now w).bind ((runs_now now w).bind ?_)
      rw [moved]
      dsimp only
      rw [placed]
      exact runs_modify _ now w
    · refine .inl ⟨_, runs_bind_record? ?_, World.SameTurns.putCollector found
        (keptMove.trans (Collector.schedule_sameTurns placed)) c'⟩
      rw [found]
      simp only [exempt]
      refine (runs_get now w).bind ((runs_now now w).bind ?_)
      rw [moved]
      dsimp only
      rw [placed]
      exact runs_modify _ now w
  · refine .inl ⟨_, runs_bind_record? ?_, World.SameTurns.putCollector found
      (Collector.reschedule_sameTurns moved) c⟩
    rw [found]
    simp only [exempt]
    refine (runs_get now w).bind ((runs_now now w).bind ?_)
    rw [moved]
    exact runs_modify _ now w

/-! ## Starting turns -/

theorem runs_handleIncoming {slot : Nat} {a : Activation} {w : World γ} (found : w.record? slot = some a)
    (m : Message) (now : Instant) :
    ∃ w', Runs (handleIncoming slot m : SiloM γ Unit) now w () w'
        [(Async.call (Proc.turn slot m)).toProgram] ∧
      w'.records = (w.putRecord slot (a.recordRunning m now)).records :=
  ⟨_, (runs_changeRecord found _ now).bind ((runs_modify _ now _).bind (runs_launch _ now _)), rfl⟩

theorem turnStarts_turn (slot : Nat) (m : Message) :
    turnStarts [(Async.call (Proc.turn slot m) : SiloM γ Unit).toProgram] = [(slot, m)] := rfl

theorem runs_pumpMailbox (slot : Nat) (now : Instant) (fuel : Nat) {w : World γ} {a : Activation}
    (found : w.record? slot = some a) :
    ∃ w' started, Runs (pumpMailbox slot fuel : SiloM γ Unit) now w () w' started ∧
      w'.records = (w.putRecord slot (a.pump now fuel).1).records ∧
      turnStarts started = (a.pump now fuel).2.map (slot, ·) := by
  induction fuel generalizing w a with
  | zero => exact ⟨w, [], runs_pure () now w, (World.putRecord_records_self found).symm, rfl⟩
  | succ fuel ih =>
    -- where the pump stops, the world stays as it is
    have stays (stop : a.pump now (fuel + 1) = (a, []))
        (runs : Runs (pumpMailbox slot (fuel + 1) : SiloM γ Unit) now w () w []) :
        ∃ w' started, Runs (pumpMailbox slot (fuel + 1) : SiloM γ Unit) now w () w' started ∧
          w'.records = (w.putRecord slot (a.pump now (fuel + 1)).1).records ∧
          turnStarts started = (a.pump now (fuel + 1)).2.map (slot, ·) :=
      ⟨w, [], runs, by rw [stop, World.putRecord_records_self found], by rw [stop]; rfl⟩
    by_cases unusable : a.state.isUsable = false
    · refine stays (by simp [Activation.pump, unusable]) ?_
      rw [pumpMailbox.eq_2]
      refine runs_bind_record? ?_
      simp only [found, unusable, Bool.not_false, if_true]
      exact runs_pure () now w
    rcases head : a.peek? with _ | next
    · refine stays (by simp [Activation.pump, unusable, head]) ?_
      rw [pumpMailbox.eq_2]
      refine runs_bind_record? ?_
      simp only [found, unusable, head, Bool.not_true, Bool.false_eq_true, if_false]
      exact runs_pure () now w
    by_cases refused : a.mayAccept next a.grainType.reentrant = false
    · refine stays (by simp [Activation.pump, unusable, head, refused]) ?_
      rw [pumpMailbox.eq_2]
      refine runs_bind_record? ?_
      simp only [found, unusable, head, refused, Bool.not_true, Bool.false_eq_true, if_false,
        Bool.not_false, if_true]
      exact runs_pure () now w
    -- the request leaves the mailbox, and its turn starts unless it expired
    have dequeued := World.record?_putRecord_of_found found a.dequeue.2
    have enter (rest : SiloM γ Unit) (started : List (Program (World γ) Event Proc)) (w' : World γ)
        (runs : Runs (if (!next.isExpired now) = true then handleIncoming slot next >>= fun _ => rest
          else rest) now (w.putRecord slot a.dequeue.2) () w' started)
        (tail : rest = pumpMailbox slot fuel) :
        Runs (pumpMailbox slot (fuel + 1) : SiloM γ Unit) now w () w' started := by
      rw [pumpMailbox.eq_2]
      refine runs_bind_record? ?_
      simp only [found, unusable, head, refused, Bool.not_true, Bool.false_eq_true, if_false]
      subst tail
      exact (runs_changeRecord found _ now).bind ((runs_now now _).bind runs)
    by_cases expired : next.isExpired now = true
    · obtain ⟨w', started, runs, records, starts⟩ := ih dequeued
      have pumped : a.pump now (fuel + 1) = a.dequeue.2.pump now fuel := by
        simp [Activation.pump, unusable, head, refused, expired]
      refine ⟨w', started, enter _ started w' ?_ rfl, ?_, by rw [starts, pumped]⟩
      · simpa [expired] using runs
      · rw [records, pumped, World.putRecord_putRecord]
    · obtain ⟨w₁, runs₁, records₁⟩ := runs_handleIncoming dequeued next now
      have found₁ : w₁.record? slot = some (a.dequeue.2.recordRunning next now) := by
        unfold World.record?
        rw [records₁]
        exact World.record?_putRecord_of_found dequeued _
      obtain ⟨w', started, runs, records, starts⟩ := ih found₁
      have pumped : a.pump now (fuel + 1) =
          (((a.dequeue.2.recordRunning next now).pump now fuel).1,
            next :: ((a.dequeue.2.recordRunning next now).pump now fuel).2) := by
        simp [Activation.pump, unusable, head, refused, expired]
      refine ⟨w', [(Async.call (Proc.turn slot next)).toProgram] ++ started,
        enter _ _ w' ?_ rfl, ?_, ?_⟩
      · simpa [expired] using runs₁.bind runs
      · rw [records, pumped, World.putRecord_records_congr records₁, World.putRecord_putRecord,
          World.putRecord_putRecord]
      · rw [turnStarts_append, turnStarts_turn, starts, pumped]
        rfl
theorem runs_messagePump {slot : Nat} {w : World γ} {a b : Activation}
    (found : w.record? slot = some b) (same : a.SameTurns b) (now : Instant) :
    ∃ w' started, Runs (messagePump slot : SiloM γ Unit) now w () w' started ∧
      (w.putRecord slot (a.pump now a.mailbox.length).1).SameTurns w' ∧
      turnStarts started = (a.pump now a.mailbox.length).2.map (slot, ·) := by
  obtain ⟨w', started, runs, records, starts⟩ := runs_pumpMailbox slot now b.mailbox.length found
  have pumped := same.pump now a.mailbox.length
  rw [same.mailbox] at runs records starts
  refine ⟨w', started, runs_bind_record? ?_, ?_, by rw [starts, pumped.2]⟩
  · simp only [found, same.mailbox]
    exact runs
  · exact (World.SameTurns.putRecord_both found pumped.1).trans (.of_records records)

theorem rescheduleCollection_cases (slot : Nat) (now : Instant) (w : World γ) :
    (∃ w', Runs (rescheduleCollection slot : SiloM γ Unit) now w () w' [] ∧ w.SameTurns w') ∨
      Fails (rescheduleCollection slot : SiloM γ Unit) now w w [] ClockOverflow.message := by
  unfold rescheduleCollection
  rcases found : w.record? slot with _ | a
  · refine .inl ⟨w, runs_bind_record? ?_, .refl w⟩
    rw [found]
    exact runs_pure () now w
  by_cases exempt : a.isExempt = true
  · refine .inl ⟨w, runs_bind_record? ?_, .refl w⟩
    rw [found]
    simp only [exempt, if_true]
    exact runs_pure () now w
  rcases moved : w.collector.reschedule a a.ageLimit now with _ | ⟨c, b, _⟩
  · refine .inr (fails_bind_record? ?_)
    rw [found]
    simp only [exempt]
    refine (runs_get now w).bind_fails ((runs_now now w).bind_fails ?_)
    rw [moved]
    exact fails_panic _ now w
  · refine .inl ⟨_, runs_bind_record? ?_, World.SameTurns.putCollector found
      (Collector.reschedule_sameTurns moved) c⟩
    rw [found]
    simp only [exempt]
    refine (runs_get now w).bind ((runs_now now w).bind ?_)
    rw [moved]
    exact runs_modify _ now w

/-! ## Lifecycle steps -/

theorem quiet_record? (slot : Nat) : Quiet (record? slot : SiloM γ (Option Activation)) :=
  fun now w => ⟨_, w, [], runs_record? slot now w, .refl w, rfl⟩

/-- Code that, from any world, starts no turn and only moves records along their lifecycles
(`World.Moves`), whether it runs to its end, with a result that `ok` allows, or stops before it. -/
def Moving {α : Type} (ok : α → Prop) (x : SiloM γ α) : Prop :=
  ∀ now (w : World γ),
    (∃ a w' started, Runs x now w a w' started ∧ ok a ∧ w.Moves w' ∧ turnStarts started = []) ∨
      ∃ w' started failure, Halts x now w w' started failure ∧ w.Moves w' ∧ turnStarts started = []

theorem Quiet.moving {α : Type} {x : SiloM γ α} (quiet : Quiet x) : Moving (fun _ => True) x := by
  intro now w
  obtain ⟨a, w', started, runs, same, starts⟩ := quiet now w
  exact .inl ⟨a, w', started, runs, trivial, same.moves, starts⟩

theorem Moving.bind {α β : Type} {ok : α → Prop} {ok' : β → Prop} {x : SiloM γ α}
    {f : α → SiloM γ β} (first : Moving ok x) (rest : ∀ a, ok a → Moving ok' (f a)) :
    Moving ok' (x >>= f) := by
  intro now w
  rcases first now w with ⟨a, w₁, started₁, runs₁, good, moves₁, starts₁⟩ |
    ⟨w₁, started₁, failure, halts₁, moves₁, starts₁⟩
  · rcases rest a good now w₁ with ⟨b, w₂, started₂, runs₂, good₂, moves₂, starts₂⟩ |
      ⟨w₂, started₂, failure, halts₂, moves₂, starts₂⟩
    · exact .inl ⟨b, w₂, started₁ ++ started₂, runs₁.bind runs₂, good₂, moves₁.trans moves₂,
        by simp [starts₁, starts₂]⟩
    · exact .inr ⟨w₂, started₁ ++ started₂, failure, runs₁.bind_halts halts₂, moves₁.trans moves₂,
        by simp [starts₁, starts₂]⟩
  · exact .inr ⟨w₁, started₁, failure, halts₁.bind, moves₁, starts₁⟩

theorem moving_pure {α : Type} {ok : α → Prop} (a : α) (good : ok a) : Moving ok (pure a : SiloM γ α) :=
  fun now w => .inl ⟨a, w, [], runs_pure a now w, good, .refl w, rfl⟩

theorem moving_halts {α : Type} {ok : α → Prop} {x : SiloM γ α}
    (halts : ∀ now w, ∃ failure, Halts x now w w [] failure) : Moving ok x := by
  intro now w
  obtain ⟨failure, stops⟩ := halts now w
  exact .inr ⟨w, [], failure, stops, .refl w, rfl⟩

theorem moving_panic {α : Type} {ok : α → Prop} (why : String) :
    Moving ok (Async.panic why : SiloM γ α) :=
  moving_halts fun now w => ⟨_, (fails_panic why now w).halts⟩

theorem moving_sleepFor (d : Duration) : Moving (fun _ => True) (Async.sleepFor d : SiloM γ Unit) :=
  moving_halts fun now w => ⟨_, halts_sleepFor d now w⟩

theorem moving_withRecord {α : Type} {f : Instant → Activation → Activation × α} (dflt : α)
    (moved : ∀ now a, Activation.LifecycleMove a (f now a).1) (slot : Nat) :
    Moving (fun _ => True) (withRecord slot dflt f : SiloM γ α) := by
  intro now w
  rcases found : w.record? slot with _ | a
  · exact .inl ⟨dflt, w, [], runs_withRecord_none found dflt f now, trivial, .refl w, rfl⟩
  · exact .inl ⟨_, _, [], runs_withRecord found dflt f now, trivial,
      (World.Moves.refl w).putRecord slot found (moved now a), rfl⟩

theorem quiet_unregisterLocally (slot : Nat) : Quiet (unregisterLocally slot : SiloM γ Unit) := by
  intro now w
  refine ⟨(), _, [], runs_modify _ now w, ?_, rfl⟩
  rcases found : w.record? slot with _ | a
  · simp only
    exact .refl w
  · simp only
    split
    · exact ((World.SameTurns.refl w).putRecord slot found
        (Collector.cancel_sameTurns w.collector a)).trans (.of_records rfl)
    · exact .of_records rfl

theorem quiet_stillActivating (slot : Nat) : Quiet (stillActivating slot : SiloM γ Bool) :=
  (quiet_record? slot).bind fun _ => quiet_pure _

theorem quiet_registerInDirectory (a : Activation) :
    Quiet (registerInDirectory a : SiloM γ (Except ActivationError Unit)) := by
  refine quiet_get.bind fun w => ?_
  split
  · split
    · exact quiet_pure _
    · exact Quiet.bind (quiet_modify fun _ => rfl) fun _ => quiet_pure _
  · split
    · exact quiet_pure _
    · rcases w.directory.registerSingle a.address with ⟨d, reg⟩
      exact Quiet.bind (quiet_modify fun _ => rfl) fun _ => by cases reg <;> exact quiet_pure _

theorem moving_loadState (t : GrainType) (g : GrainId) :
    Moving (fun _ => True) (loadState t g : SiloM γ (Except ActivationError (Option StoredState))) := by
  unfold loadState
  split
  · refine quiet_get.moving.bind fun w _ => ?_
    split
    · exact moving_pure _ trivial
    · exact (moving_sleepFor _).bind fun _ _ => by split <;> exact moving_pure _ trivial
  · exact moving_pure _ trivial

theorem lifecycleMove_swap {a : Activation} (t : List Message × Activation)
    (moved : a.LifecycleMove t.2) : a.LifecycleMove (match t with | (p, b) => (b, p)).1 := by
  cases t
  exact moved

theorem moving_onActivationFailed (slot : Nat) (err : ActivationError) :
    Moving (fun _ => True) (onActivationFailed slot err : SiloM γ Unit) := by
  unfold onActivationFailed
  dsimp only
  refine (moving_withRecord [] (fun _ a => ?_) slot).bind fun pending _ => ?_
  · -- the record is marked, made invalid, and its waiting requests are taken
    refine lifecycleMove_swap _ ((Activation.LifecycleMove.trans ?_
      (Activation.setState_lifecycleMove _ (s := .invalid) (by decide))).trans
      (Activation.takePending_lifecycleMove _))
    exact Activation.SameTurns.lifecycleMove ⟨rfl, rfl, rfl, rfl, rfl⟩
  refine (quiet_unregisterLocally slot).moving.bind fun _ _ => ?_
  refine (quiet_record? slot).moving.bind fun found _ => ?_
  split
  · split
    · exact ((quiet_forM pending fun _ => quiet_redirect _ _ _).bind fun _ =>
        quiet_notifyDeactivated slot).moving
    · exact ((quiet_forM pending fun _ => quiet_reject _ _ _).bind fun _ =>
        (quiet_unregisterAddress _).bind fun _ => quiet_notifyDeactivated slot).moving
  · exact moving_pure () trivial

theorem moving_endRecord (slot : Nat) : Moving (fun _ => True) (endRecord slot : SiloM γ Unit) := by
  unfold endRecord
  refine (moving_withRecord [] (fun _ a => ?_) slot).bind fun pending _ => ?_
  · refine lifecycleMove_swap _ (((Activation.setState_lifecycleMove a (s := .invalid)
      (by decide)).trans ?_).trans (Activation.takePending_lifecycleMove _))
    exact Activation.SameTurns.lifecycleMove ⟨rfl, rfl, rfl, rfl, rfl⟩
  refine (quiet_unregisterLocally slot).moving.bind fun _ _ => ?_
  refine (quiet_record? slot).moving.bind fun found _ => ?_
  split
  · exact ((quiet_invalidateCache _).bind fun _ => (quiet_notifyDeactivated slot).bind fun _ =>
      quiet_forM pending fun _ => quiet_sendMessage _).moving
  · exact moving_pure () trivial

theorem moving_beginDestroy (slot : Nat) :
    Moving (fun _ => True) (beginDestroy slot : SiloM γ (Option (Nat × Bool × DeactivationReason))) := by
  intro now w
  refine .inl ⟨_, _, [], runs_update _ now w, trivial, ?_, rfl⟩
  rcases found : w.record? slot with _ | a
  · simp only
    exact .refl w
  · simp only
    split
    · exact .refl w
    · split
      · exact .refl w
      · rename_i b _ moved
        have move := a.setState_lifecycleMove (s := .deactivating) (by decide)
        rw [moved] at move
        exact (World.Moves.refl w).putRecord slot found move

theorem moving_activate [Grains γ] (slot : Nat) :
    Moving (fun r => r ≠ .ok ()) (activate slot : SiloM γ (Except ActivationError Unit)) := by
  unfold activate
  refine (quiet_record? slot).moving.bind fun found _ => ?_
  split
  · rename_i a
    refine quiet_get.moving.bind fun w _ => ?_
    split
    · refine Moving.bind (Quiet.moving (quiet_modify fun _ => rfl)) fun _ _ => ?_
      refine (moving_withRecord false (fun _ b => ?_) slot).bind fun moved _ => ?_
      · have move := b.setState_lifecycleMove (s := .activating) (by decide)
        revert move
        rcases b.setState .activating with ⟨c, _ | _⟩
        · exact id
        · exact fun move => move.trans (Activation.SameTurns.lifecycleMove ⟨rfl, rfl, rfl, rfl, rfl⟩)
      split
      · exact moving_pure _ (by simp)
      refine (moving_loadState _ _).bind fun loaded _ => ?_
      split
      · refine Moving.bind (moving_pure _ trivial : Moving (fun _ => True) _) fun state _ => ?_
        refine (quiet_stillActivating slot).moving.bind fun still _ => ?_
        split
        · exact moving_pure _ (by simp)
        refine (quiet_registerInDirectory a).moving.bind fun registered _ => ?_
        split
        · exact moving_pure _ (by simp)
        refine (quiet_stillActivating slot).moving.bind fun still _ => ?_
        split
        · exact moving_pure _ (by simp)
        -- the hook runs only once the thread was given up
        exact moving_halts fun now w => ⟨_, (halts_catchPanic _ now w).bind⟩
      · exact moving_pure _ (by simp)
    · exact moving_panic _
  · exact moving_pure _ (by simp)

theorem moving_initActivation [Grains γ] (slot : Nat) :
    Moving (fun _ => True) (initActivation slot : SiloM γ Unit) := by
  unfold initActivation
  refine (moving_activate slot).bind fun result notStarted => ?_
  split
  · exact absurd rfl notStarted
  · exact (moving_onActivationFailed slot _).bind fun _ _ => Quiet.moving (quiet_modify fun _ => rfl)

end SiloM

end ActorSilo
