import ActorSilo.Proofs.Happenings
import ActorSilo.Scenario.Bench

/-! # Runs of a silo: no stranded mailbox, and requests in order

A `Run` is a sequence of `Step`s: a happening runs its code up to the first point where its task
may give up the thread (`Program.settle`, the stretch the executor runs without switching), or
records only move along their lifecycles. A run keeps the turns it started, the requests that
reached the dispatcher, and whether a step failed. The executor's fuel can stop a task inside a
stretch, so these invariants are stated over runs of whole steps. Every step has an `Effect`
(`Happening.effect`), so each invariant is proved once per effect.

**Main results:** `Run.notStranded_inOrder` (along a run in which no step fails, no ready idle
activation has anything waiting, and each slot's requests start in arrival order) and
`Run.replay` (happenings replayed one after another make a run).
-/

namespace ActorSilo

namespace World

variable {γ : Type}

theorem record?_addRecord (w : World γ) (a : Activation) (i : Nat) :
    (w.addRecord a).1.record? i = if i = w.records.size then some a else w.record? i := by
  simp [addRecord, record?, Array.getElem?_push]

theorem record?_size (w : World γ) : w.record? w.records.size = none := by
  simp [record?]

theorem forall_putRecord {P : Activation → Prop} {w : World γ}
    (holds : ∀ slot a, w.record? slot = some a → P a) (slot : Nat) {b : Activation} (kept : P b) :
    ∀ i c, (w.putRecord slot b).record? i = some c → P c := by
  intro i c found
  by_cases here : slot = i
  · subst here
    rw [record?_putRecord_self] at found
    obtain ⟨_, -, rfl⟩ := Option.map_eq_some_iff.mp found
    exact kept
  · rw [record?_putRecord_ne w b here] at found
    exact holds i c found

theorem forall_addRecord {P : Activation → Prop} {w : World γ}
    (holds : ∀ slot a, w.record? slot = some a → P a) {a : Activation} (kept : P a) :
    ∀ i c, (w.addRecord a).1.record? i = some c → P c := by
  intro i c found
  rw [record?_addRecord] at found
  split at found
  · cases found
    exact kept
  · exact holds i c found

/-- No record runs a turn or has a request waiting, as in a silo that has just started. -/
def Idle (w : World γ) : Prop :=
  ∀ slot a, w.record? slot = some a → a.running = none ∧ a.interleaved = [] ∧ a.mailbox = []

end World

namespace Activation

theorem Releases.turns_sublist {now : Instant} {a b : Activation} (released : Releases now a b) :
    b.turns.Sublist a.turns := by
  cases released with
  | finish id => exact a.resetRunning_turns_sublist id now
  | ready _ => exact .refl _

end Activation

/-- The requests for slot `i` among pairs of a slot and a request, in order. -/
def forSlot (i : Nat) (l : List (Nat × Message)) : List Message :=
  l.filterMap fun p => if p.1 = i then some p.2 else none

@[simp] theorem forSlot_nil (i : Nat) : forSlot i [] = [] := rfl

@[simp] theorem forSlot_append (i : Nat) (l l' : List (Nat × Message)) :
    forSlot i (l ++ l') = forSlot i l ++ forSlot i l' :=
  List.filterMap_append

@[simp] theorem forSlot_single_self (i : Nat) (m : Message) : forSlot i [(i, m)] = [m] := by
  simp [forSlot]

theorem forSlot_single_ne {i slot : Nat} (other : slot ≠ i) (m : Message) :
    forSlot i [(slot, m)] = [] := by
  simp [forSlot, other]

@[simp] theorem forSlot_map_self (i : Nat) (l : List Message) : forSlot i (l.map (i, ·)) = l := by
  simp only [forSlot, List.filterMap_map, Function.comp_def, ite_true, List.filterMap_some]

theorem forSlot_map_ne {i slot : Nat} (other : slot ≠ i) (l : List Message) :
    forSlot i (l.map (slot, ·)) = [] := by
  simp [forSlot, List.filterMap_map, other]

theorem forSlot_sublist {l l' : List (Nat × Message)} (sub : l.Sublist l') (i : Nat) :
    (forSlot i l).Sublist (forSlot i l') :=
  sub.filterMap _

/-! ## Requests in order -/

variable {γ : Type}

/-- In `w`, after turns `starts` started and requests `arrivals` came, slot `i` keeps its
requests in order: no turn started at it while it had no record, and when its record is of a
grain type that is not reentrant and no request for it carries a flag that lets turns run
together, the requests that started there followed by those that wait are, in order, among
those that came, and no running turn carries such a flag. -/
structure InOrder (w : World γ) (starts arrivals : List (Nat × Message)) (i : Nat) : Prop where
  unmade : w.record? i = none → forSlot i starts = []
  ordered : ∀ a, w.record? i = some a → a.grainType.reentrant = false →
    (∀ m ∈ forSlot i arrivals, m.Plain) →
    (forSlot i starts ++ a.mailbox).Sublist (forSlot i arrivals) ∧ ∀ t ∈ a.turns, t.Plain

namespace InOrder

variable {w w' : World γ} {starts arrivals : List (Nat × Message)} {i : Nat}

theorem more_arrivals (order : InOrder w starts arrivals i) {arrivals' : List (Nat × Message)}
    (more : arrivals.Sublist arrivals') : InOrder w starts arrivals' i where
  unmade := order.unmade
  ordered a found notReentrant plain := by
    have sub := forSlot_sublist more i
    obtain ⟨ordered, turns⟩ := order.ordered a found notReentrant fun m member =>
      plain m (sub.subset member)
    exact ⟨ordered.trans sub, turns⟩

theorem moves (order : InOrder w starts arrivals i) (moves : w.Moves w') :
    InOrder w' starts arrivals i := by
  have rel := moves i
  constructor
  · intro missing
    rcases old : w.record? i with _ | a
    · exact order.unmade old
    · rw [old, missing] at rel
      exact absurd rel Option.not_rel_some_none
  · intro b found notReentrant plain
    rcases old : w.record? i with _ | a
    · rw [old, found] at rel
      exact absurd rel Option.not_rel_none_some
    rw [old, found, Option.rel_some_some] at rel
    obtain ⟨ordered, turns⟩ := order.ordered a old (rel.grainType ▸ notReentrant) plain
    have sameTurns : b.turns = a.turns := by simp [Activation.turns, rel.running, rel.interleaved]
    refine ⟨?_, sameTurns ▸ turns⟩
    rcases rel.mailbox with same | taken
    · exact same ▸ ordered
    · rw [taken, List.append_nil]
      exact (List.sublist_append_left _ _).trans ordered

theorem of_record_eq (order : InOrder w starts arrivals i) (same : w'.record? i = w.record? i) :
    InOrder w' starts arrivals i where
  unmade missing := order.unmade (same ▸ missing)
  ordered a found := order.ordered a (same ▸ found)

theorem append_other (order : InOrder w starts arrivals i) {starts' arrivals' : List (Nat × Message)}
    (noStarts : forSlot i starts' = []) (noArrivals : forSlot i arrivals' = []) :
    InOrder w (starts ++ starts') (arrivals ++ arrivals') i := by
  constructor
  · intro missing
    rw [forSlot_append, noStarts, List.append_nil]
    exact order.unmade missing
  · intro a found notReentrant plain
    simp only [forSlot_append, noStarts, noArrivals, List.append_nil] at plain ⊢
    exact order.ordered a found notReentrant plain

variable {slot : Nat} {a : Activation}

theorem start (order : InOrder w starts arrivals slot) (found : w.record? slot = some a)
    {m : Message} (accepts : a.mayAccept m a.grainType.reentrant = true)
    (notStranded : a.NotStranded) (now : Instant) :
    InOrder (w.putRecord slot (a.recordRunning m now)) (starts ++ [(slot, m)])
      (arrivals ++ [(slot, m)]) slot := by
  have here := w.record?_putRecord_of_found found (a.recordRunning m now)
  constructor
  · intro missing
    rw [here] at missing
    cases missing
  · intro b started notReentrant plain
    rw [here] at started
    cases started
    rw [Activation.recordRunning_grainType] at notReentrant
    simp only [forSlot_append, forSlot_single_self] at plain ⊢
    have plainNew : m.Plain := plain m (by simp)
    obtain ⟨ordered, turns⟩ := order.ordered a found notReentrant fun m' member =>
      plain m' (List.mem_append_left _ member)
    have idle := Activation.running_eq_none_of_plain (notReentrant ▸ accepts) plainNew turns
    have empty : a.mailbox = [] := notStranded (Activation.state_of_mayAccept accepts) idle
    rw [empty, List.append_nil] at ordered
    refine ⟨?_, ?_⟩
    · rw [Activation.recordRunning_mailbox, empty, List.append_nil]
      exact ordered.append_right [m]
    · intro t member
      rcases Activation.mem_recordRunning_turns member with old | new
      · exact turns t old
      · exact new ▸ Turn.ofMessage_plain plainNew now

theorem queue (order : InOrder w starts arrivals slot) (found : w.record? slot = some a)
    {m : Message} {b : Activation} (queued : a.enqueue m = .ok b) :
    InOrder (w.putRecord slot b) starts (arrivals ++ [(slot, m)]) slot := by
  obtain ⟨mailbox, -, grainType, running, interleaved⟩ := Activation.enqueue_mailbox queued
  have here := w.record?_putRecord_of_found found b
  constructor
  · intro missing
    rw [here] at missing
    cases missing
  · intro c waiting notReentrant plain
    rw [here] at waiting
    cases waiting
    simp only [forSlot_append, forSlot_single_self] at plain ⊢
    obtain ⟨ordered, turns⟩ := order.ordered a found (grainType ▸ notReentrant) fun m' member =>
      plain m' (List.mem_append_left _ member)
    have sameTurns : b.turns = a.turns := by simp [Activation.turns, running, interleaved]
    refine ⟨?_, sameTurns ▸ turns⟩
    rw [mailbox, ← List.append_assoc]
    exact ordered.append_right [m]

theorem pump (order : InOrder w starts arrivals slot) (found : w.record? slot = some a)
    {now : Instant} {b : Activation} (released : Activation.Releases now a b) :
    InOrder (w.putRecord slot (b.pump now b.mailbox.length).1)
      (starts ++ (b.pump now b.mailbox.length).2.map (slot, ·)) arrivals slot := by
  obtain ⟨mailbox, grainType⟩ := released.mailbox
  have here := w.record?_putRecord_of_found found (b.pump now b.mailbox.length).1
  constructor
  · intro missing
    rw [here] at missing
    cases missing
  · intro c pumped notReentrant plain
    rw [here] at pumped
    cases pumped
    rw [(Activation.pump_state now _ b).2, grainType] at notReentrant
    obtain ⟨ordered, turns⟩ := order.ordered a found notReentrant plain
    have taken : ((b.pump now b.mailbox.length).2 ++ (b.pump now b.mailbox.length).1.mailbox).Sublist
        a.mailbox := by
      rw [← mailbox]
      exact Activation.pump_sublist now b.mailbox.length b
    refine ⟨?_, ?_⟩
    · rw [forSlot_append, forSlot_map_self, List.append_assoc]
      exact (taken.append_left _).trans ordered
    · refine Activation.pump_turns_plain now _
        (fun t member => turns t (released.turns_sublist.subset member)) ?_
      intro m member
      rw [mailbox] at member
      exact plain m (ordered.subset (List.mem_append_right _ member))

theorem create (order : InOrder w starts arrivals w.records.size) (running : a.running = none)
    (interleaved : a.interleaved = []) (mailbox : a.mailbox = []) :
    InOrder (w.addRecord a).1 starts arrivals w.records.size := by
  have here : (w.addRecord a).1.record? w.records.size = some a := by
    simp [World.record?_addRecord]
  constructor
  · intro missing
    rw [here] at missing
    cases missing
  · intro c made _ _
    rw [here] at made
    cases made
    rw [order.unmade w.record?_size, mailbox]
    refine ⟨List.nil_sublist _, ?_⟩
    simp [Activation.turns, running, interleaved]

end InOrder

theorem World.Idle.notStranded {w : World γ} (idle : w.Idle) : w.NotStranded :=
  fun slot a found _ _ => (idle slot a found).2.2

theorem World.Idle.turnsSafe {w : World γ} (idle : w.Idle) : w.TurnsSafe := by
  intro slot a found
  obtain ⟨running, interleaved, _⟩ := idle slot a found
  constructor
  · exact fun _ => interleaved
  · intro _
    simp [Activation.turns, running, interleaved]

theorem World.Idle.inOrder {w : World γ} (idle : w.Idle) (i : Nat) : InOrder w [] [] i where
  unmade _ := rfl
  ordered a found _ _ := by
    obtain ⟨running, interleaved, mailbox⟩ := idle i a found
    simp [mailbox, Activation.turns, running, interleaved]

/-! ## What each effect keeps -/

namespace Effect

variable {now : Instant} {w w' : World γ} {starts' arrived : List (Nat × Message)}

theorem notStranded (effect : Effect now w w' starts' arrived false)
    (notStranded : w.NotStranded) : w'.NotStranded := by
  cases effect with
  | move _ moves => exact moves.notStranded notStranded
  | @start slot a m _ _ moves =>
    exact moves.notStranded
      (World.forall_putRecord notStranded slot (Activation.notStranded_recordRunning a m now))
  | @queue slot a b m _ refused queued moves =>
    exact moves.notStranded
      (World.forall_putRecord notStranded slot (Activation.NotStranded.enqueue refused queued))
  | @pump slot a b _ _ moves =>
    exact moves.notStranded
      (World.forall_putRecord notStranded slot (Activation.pump_notStranded now _ b (Nat.le_refl _)))
  | @create a _ _ mailbox moves =>
    exact moves.notStranded (World.forall_addRecord notStranded fun _ _ => mailbox)

theorem inOrder {starts arrivals : List (Nat × Message)}
    (effect : Effect now w w' starts' arrived false) (notStranded : w.NotStranded)
    (order : ∀ i, InOrder w starts arrivals i) (i : Nat) :
    InOrder w' (starts ++ starts') (arrivals ++ arrived) i := by
  cases effect with
  | move _ moves =>
    rw [List.append_nil, List.append_nil]
    exact (order i).moves moves
  | @start slot a m found accepts moves =>
    refine InOrder.moves ?_ moves
    by_cases here : slot = i
    · subst here
      exact (order slot).start found accepts (notStranded slot a found) now
    · exact ((order i).append_other (forSlot_single_ne here m) (forSlot_single_ne here m)).of_record_eq
        (w.record?_putRecord_ne _ here)
  | @queue slot a b m found _ queued moves =>
    refine InOrder.moves ?_ moves
    by_cases here : slot = i
    · subst here
      rw [List.append_nil]
      exact (order slot).queue found queued
    · exact ((order i).append_other (forSlot_nil i) (forSlot_single_ne here m)).of_record_eq
        (w.record?_putRecord_ne _ here)
  | @pump slot a b found released moves =>
    refine InOrder.moves ?_ moves
    by_cases here : slot = i
    · subst here
      rw [List.append_nil]
      exact (order slot).pump found released
    · exact ((order i).append_other (forSlot_map_ne here _) (forSlot_nil i)).of_record_eq
        (w.record?_putRecord_ne _ here)
  | @create a running interleaved mailbox moves =>
    refine InOrder.moves ?_ moves
    rw [List.append_nil, List.append_nil]
    by_cases here : i = w.records.size
    · subst here
      exact (order _).create running interleaved mailbox
    · exact (order i).of_record_eq (by rw [World.record?_addRecord, if_neg here])

end Effect

/-! ## Runs -/

section Runs

variable [Grains γ]

/-- One step of a silo: `Step w w' starts arrivals failed` turns `w` into `w'`, starts the turns
`starts`, brings the requests `arrivals` to the dispatcher, and fails when `failed`. -/
inductive Step : World γ → World γ → List (Nat × Message) → List (Nat × Message) → Bool → Prop
  /-- A happening runs its code at `now`, its first task numbered `next`, until its task first
  may give up the thread. -/
  | happen (e : Happening) (now : Instant) (next : Nat) (w : World γ) :
      Step w ((e.code : SiloM γ Unit).toProgram.settle now next w).world
        (turnStarts ((e.code : SiloM γ Unit).toProgram.settle now next w).started) e.arrivals
        ((e.code : SiloM γ Unit).toProgram.settle now next w).failure.isSome
  | move {w w' : World γ} : w.Moves w' → Step w w' [] [] false

/-- Steps one after another, with the turns they started and the requests they brought, in
order, and whether one of them failed. -/
inductive Run : World γ → World γ → List (Nat × Message) → List (Nat × Message) → Bool → Prop
  | nil (w : World γ) : Run w w [] [] false
  | step {w w₁ w₂ : World γ} {starts arrivals starts' arrivals' : List (Nat × Message)}
      {failed failed' : Bool} :
      Run w w₁ starts arrivals failed → Step w₁ w₂ starts' arrivals' failed' →
      Run w w₂ (starts ++ starts') (arrivals ++ arrivals') (failed || failed')

variable {w w' : World γ} {starts arrivals : List (Nat × Message)} {failed : Bool}

/-- Every step has an effect, which takes in some of the requests the step brings. -/
theorem Step.effect (step : Step w w' starts arrivals failed) :
    ∃ now arrived, arrived.Sublist arrivals ∧ Effect now w w' starts arrived failed := by
  cases step with
  | happen e now next =>
    obtain ⟨arrived, taken, effect⟩ := e.effect now next w
    exact ⟨now, arrived, taken, effect⟩
  | move moves => exact ⟨0, [], .refl [], .move false moves⟩

/-- Along every run from an idle silo in which no step fails, no mailbox is stranded and every
slot keeps its requests in order. -/
theorem Run.notStranded_inOrder (run : Run w w' starts arrivals failed) (start : w.Idle)
    (ok : failed = false) : w'.NotStranded ∧ ∀ i, InOrder w' starts arrivals i := by
  induction run with
  | nil => exact ⟨start.notStranded, start.inOrder⟩
  | step _ step ih =>
    rw [Bool.or_eq_false_iff] at ok
    obtain ⟨notStranded, order⟩ := ih ok.1
    obtain ⟨now, arrived, taken, effect⟩ := step.effect
    rw [ok.2] at effect
    exact ⟨effect.notStranded notStranded,
      fun i => (effect.inOrder notStranded order i).more_arrivals (taken.append_left _)⟩

/-- One more happening after those replayed so far: it runs at `now`, its first task numbered
`next`, in the world they left. -/
def Happening.replayStep (now : Instant) (next : Nat) (acc : World γ × List (Nat × Message) × Bool)
    (e : Happening) : World γ × List (Nat × Message) × Bool :=
  let r := (e.code : SiloM γ Unit).toProgram.settle now next acc.1
  (r.world, acc.2.1 ++ turnStarts r.started, acc.2.2 || r.failure.isSome)

/-- The world after the happenings `es` ran one after another from `w`, the turns they started,
and whether one of them failed. -/
def Happening.replay (now : Instant) (next : Nat) (es : List Happening) (w : World γ) :
    World γ × List (Nat × Message) × Bool :=
  es.foldl (Happening.replayStep now next) (w, [], false)

theorem Run.foldl_replayStep (now : Instant) (next : Nat) (es : List Happening)
    (acc : World γ × List (Nat × Message) × Bool) (run : Run w acc.1 acc.2.1 arrivals acc.2.2) :
    Run w (es.foldl (Happening.replayStep now next) acc).1
      (es.foldl (Happening.replayStep now next) acc).2.1 (arrivals ++ es.flatMap Happening.arrivals)
      (es.foldl (Happening.replayStep now next) acc).2.2 := by
  induction es generalizing acc arrivals with
  | nil => simpa using run
  | cons e es ih =>
    rw [List.flatMap_cons, ← List.append_assoc]
    exact ih (Happening.replayStep now next acc e) (run.step (.happen e now next acc.1))

/-- Happenings replayed one after another from `w` make a run that brings their requests. -/
theorem Run.replay (now : Instant) (next : Nat) (es : List Happening) (w : World γ) :
    Run w (Happening.replay now next es w).1 (Happening.replay now next es w).2.1
      (es.flatMap Happening.arrivals) (Happening.replay now next es w).2.2 := by
  have run := Run.foldl_replayStep now next es (w, [], false) (.nil w)
  rwa [List.nil_append] at run

end Runs

/-! ## Turns that run together, and the order of requests -/

/-- A silo on a loopback port that has just started with the default configuration: it knows no
grain type and has no record. -/
def freshSilo : World Scenario.Bench where
  localSilo := SiloAddress.localhost 11111 0
  config := {}
  types := {}
  membership := Membership.make (SiloAddress.localhost 11111 0)
  directory := {}
  collector := Collector.make (Duration.ofMillis 1000) 0
  app := default

/-- `freshSilo` knowing one grain type, the counter of the test bench. -/
def counterSilo : World Scenario.Bench :=
  { freshSilo with types := ({} : GrainTypeRegistry).register { code := 1, name := "Counter" } }

@[simp] theorem counterSilo_record? (slot : Nat) : counterSilo.record? slot = none := by
  simp [World.record?, counterSilo, freshSilo]

theorem counterSilo_idle : counterSilo.Idle := by
  intro slot a found
  simp at found

section ArrivalOrder

variable [Grains γ] {w w' : World γ} {starts arrivals : List (Nat × Message)}

/-- Along every run from an idle silo in which no step fails, an activation that is ready and
runs no turn has nothing waiting; and on an activation of a grain type that is not reentrant
whose requests carry neither flag, the requests start in the order they reached the
dispatcher, and those still waiting come after them in that order. -/
theorem requests_start_in_arrival_order (start : w.Idle) (run : Run w w' starts arrivals false) :
    w'.NotStranded ∧ ∀ slot a, w'.record? slot = some a → a.grainType.reentrant = false →
      (∀ m ∈ forSlot slot arrivals, m.Plain) →
      (forSlot slot starts ++ a.mailbox).Sublist (forSlot slot arrivals) := by
  obtain ⟨notStranded, order⟩ := run.notStranded_inOrder start rfl
  exact ⟨notStranded, fun slot a found notReentrant plain =>
    ((order slot).ordered a found notReentrant plain).1⟩

/-- A ten-second call to counter `a`, for its activation 5 on `counterSilo`. -/
def slowCall : Message :=
  { Message.request 1 ⟨1, "a", .grain⟩ 1 4 [16, 39, 0, 0, 0, 0, 0, 0] with
    targetSilo := some (.localhost 11111 0), targetActivation := some 5 }

/-- A plain call to counter `a`, for its activation 5 on `counterSilo`. -/
def plainCall : Message :=
  { Message.request 2 ⟨1, "a", .grain⟩ 1 1 [] with
    targetSilo := some (.localhost 11111 0), targetActivation := some 5 }

/-- The catalog makes the record of counter `a`, its start task runs, the slow call and then
the plain one reach it, and the activation becomes ready. -/
def counterHappenings : List Happening :=
  [.create ⟨.localhost 11111 0, ⟨1, "a", .grain⟩, 5⟩ (some .preferLocal), .init 0,
    .arrive slowCall 0, .arrive plainCall 0, .activated 0]

/-- Once the activation of counter `a` is ready, the slow call runs and the plain one waits. -/
theorem counter_requests_in_order :
    ∃ w' starts, Run counterSilo w' starts [(0, slowCall), (0, plainCall)] false ∧
      (w'.record? 0).map (fun a => (a.turns.length, a.mailbox.length)) = some (1, 1) ∧
      w'.NotStranded ∧ ∀ slot a, w'.record? slot = some a → a.grainType.reentrant = false →
        (∀ m ∈ forSlot slot [(0, slowCall), (0, plainCall)], m.Plain) →
        (forSlot slot starts ++ a.mailbox).Sublist (forSlot slot [(0, slowCall), (0, plainCall)]) := by
  have run := Run.replay 0 0 counterHappenings counterSilo
  have ok : (Happening.replay 0 0 counterHappenings counterSilo).2.2 = false := by decide +kernel
  rw [ok] at run
  exact ⟨_, _, run, by decide +kernel, requests_start_in_arrival_order counterSilo_idle run⟩

end ArrivalOrder

end ActorSilo
