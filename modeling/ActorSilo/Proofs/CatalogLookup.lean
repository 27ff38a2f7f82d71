import ActorSilo.Proofs.CollectionTiming

/-! # Looking activations up in the catalog, and making them

The catalog answers a call for an address in one stretch of code. An unknown grain type in a
placement is refused; a registered id is answered with its slot after its ticket moves on; an
unregistered one is refused without a placement, and otherwise a record is made, registered in a
new slot and started in a task of its own. The registry and the registered slots index each other
(`World.Indexed`) after every change, so later calls find the record made. Moving the ticket on
may overflow the clock, and then the call is never answered (`Collector.Overflows`).
-/

namespace ActorSilo

namespace Async

variable {σ ε ι α β : Type} {x : Async σ ε ι α} {now : Instant} {next : Nat} {s s₁ s₂ : σ}

/-- `x`, started in world `s` at `now` with the tasks it starts numbered from `next`, returns `a`
in world `s'` without giving up the thread, having started the tasks `started`. Unlike `Runs`, the
answer may name a task it started. -/
def RunsAt (x : Async σ ε ι α) (now : Instant) (next : Nat) (s : σ) (a : α) (s' : σ)
    (started : List (Program σ ε ι)) : Prop :=
  ∀ k, (x k).settle now next s = ((k a).settle now (next + started.length) s').after started

theorem Runs.runsAt {a : α} {started : List (Program σ ε ι)} (runs : Runs x now s a s₁ started)
    (next : Nat) : RunsAt x now next s a s₁ started :=
  fun k => runs k next

theorem RunsAt.answer_eq {a b : α} {started₁ started₂ : List (Program σ ε ι)}
    (first : RunsAt x now next s a s₁ started₁) (second : RunsAt x now next s b s₂ started₂) :
    a = b := by
  classical
  -- a continuation that fails on every answer but `a` tells the answers apart
  let k : α → Program σ ε ι := fun r => if r = a then .done else .panic ""
  have failure := congrArg Settled.failure ((first k).symm.trans (second k))
  by_contra differ
  simp [k, Settled.after, Ne.symm differ] at failure

theorem RunsAt.not_fails {a : α} {started started' : List (Program σ ε ι)} {why : String}
    (runs : RunsAt x now next s a s₁ started) (fails : Fails x now s s₂ started' why) : False := by
  have failure := congrArg Settled.failure ((runs fun _ => .done).symm.trans (fails _ next))
  simp [Settled.after] at failure

end Async

namespace Collector

variable {c : Collector} {a : Activation} {timeout : Duration} {now : Instant}

/-- Moving `a` to the bucket `timeout` from `now` runs past the end of the clock: `a`, not a
system record, holds a live ticket of the wheel, and the timeout, of at least a quantum, ends past
the clock's end. -/
def Overflows (c : Collector) (a : Activation) (timeout : Duration) (now : Instant) : Prop :=
  a.isExempt = false ∧ (∃ old, a.ticket = some old ∧ c.nextTicket ≤ old) ∧ c.quantum ≤ timeout ∧
    now.add? timeout = none

theorem ticketFor_error_iff {next : Nat} :
    (∃ e, c.ticketFor next timeout now = .error e) ↔ c.quantum ≤ timeout ∧ now.add? timeout = none := by
  constructor
  · rintro ⟨e, failed⟩
    by_cases short : timeout < c.quantum
    · rw [ticketFor_short short] at failed
      cases failed
    exact ⟨Nat.le_of_not_lt short, ticketFor_error failed⟩
  · rintro ⟨long, beyond⟩
    exact ⟨{}, ticketFor_beyond (Nat.not_lt.mpr long) beyond⟩

theorem reschedule_overflows (overflowing : c.Overflows a timeout now) :
    c.reschedule a timeout now = .error {} := by
  obtain ⟨exempt, ⟨old, held, live⟩, long, beyond⟩ := overflowing
  unfold reschedule
  rw [exempt, held]
  simp only [Bool.false_eq_true, if_false]
  rw [if_neg (Nat.not_lt.mpr live), ticketFor_beyond (Nat.not_lt.mpr long) beyond]
  rfl

theorem overflows_of_reschedule {e : ClockOverflow} (failed : c.reschedule a timeout now = .error e) :
    c.Overflows a timeout now := by
  unfold reschedule at failed
  split at failed
  · cases failed
  rename_i exempt
  split at failed
  · cases failed
  rename_i old held
  split at failed
  · cases failed
  rename_i live
  rcases asked : c.ticketFor c.nextTicket timeout now with e' | (_ | new)
  · exact ⟨Bool.eq_false_iff.mpr exempt, ⟨old, held, Nat.le_of_not_lt live⟩,
      ticketFor_error_iff.mp ⟨e', asked⟩⟩
  -- a ticket refused for a reason other than the clock, or given, moves the record on
  all_goals rw [asked] at failed
  · cases failed
  · dsimp only [bind, Except.bind] at failed
    split at failed
    · cases failed
    · generalize c.removeFrom a old = q at failed
      obtain ⟨c₁, a₁, removed⟩ := q
      dsimp only at failed
      split at failed <;> cases failed

end Collector

namespace Registry

variable {r : Registry} {a : Activation}

theorem setTargets_ids (r : Registry) (g : GrainId) (ids : List Nat) :
    (r.setTargets g ids).ids = r.ids := by
  unfold setTargets
  split
  · rfl
  · split <;> rfl

theorem mem_record_ids (r : Registry) (a : Activation) : a.id ∈ (r.record a).ids := by
  unfold record
  split
  · rename_i held
    exact List.contains_iff_mem.mp held
  · rw [setTargets_ids]
    exact List.mem_append_right _ (List.mem_singleton_self _)

theorem record_ids_of_not_mem (fresh : a.id ∉ r.ids) : (r.record a).ids = r.ids ++ [a.id] := by
  unfold record
  rw [if_neg (by simpa using fresh), setTargets_ids]

theorem remove_ids (r : Registry) (a : Activation) : (r.remove a).1.ids = r.ids.erase a.id := by
  unfold remove
  split
  · rename_i absent
    exact (List.erase_of_not_mem (by simpa using absent)).symm
  · rw [setTargets_ids]

end Registry

namespace World

variable {γ : Type} {w w' : World γ} {id slot : Nat}

theorem registry_putNewest (w : World γ) (as : List Activation) :
    (w.putNewest as).registry = w.registry :=
  foldl_invariant (fun w' : World γ => w'.registry = w.registry) (fun _ _ same => by
    split
    · exact same
    · exact same) as w rfl

theorem isRegistered_iff : w.isRegistered id = true ↔ id ∈ w.registry.ids := by
  simp [isRegistered]

theorem lt_size_of_record? {j : Nat} {a : Activation} (found : w.record? j = some a) :
    j < w.records.size := by
  unfold record? at found
  exact (Array.getElem?_eq_some_iff.mp found).1

theorem slotOf?_of_find? {p : Nat × Nat} (found : w.registeredSlots.find? (·.1 == id) = some p) :
    w.slotOf? id = some p.2 := by
  unfold slotOf?
  rw [found]

/-- A new record, registered under its id, as `SiloM.getOrCreate` makes it: the world and the
record's slot. -/
def enroll (w : World γ) (a : Activation) : World γ × Nat :=
  let (w, slot) := w.addRecord a
  ({ w with registry := w.registry.record a, registeredSlots := w.registeredSlots ++ [(a.id, slot)] },
    slot)

/-- The record the catalog makes for an address of grain type `t` at `now`: in state `create`,
holding the request limit of its kind of grain and the age limit of its grain type. -/
def newRecord (w : World γ) (target : ActivationAddress) (t : GrainType) (now : Instant) :
    Activation :=
  Activation.make target t (w.config.limits.forGrain t.statelessWorker) (w.ageLimitOf t) now

/-- The registry and the registered slots index each other: the registry holds each id once, an
id has a registered slot exactly when it is registered, and each registered slot holds a record of
its id. -/
structure Indexed (w : World γ) : Prop where
  nodup : w.registry.ids.Nodup
  holds : w.SlotsHold
  listed : ∀ p ∈ w.registeredSlots, w.isRegistered p.1 = true
  slotted : ∀ id, w.isRegistered id = true → ∃ slot, (id, slot) ∈ w.registeredSlots

namespace Indexed

theorem findTarget?_registered (indexed : w.Indexed) (registered : w.isRegistered id = true) :
    ∃ slot, w.registeredSlots.find? (·.1 == id) = some (id, slot) ∧ w.findTarget? id = some slot := by
  obtain ⟨slot, member⟩ := indexed.slotted id registered
  have some : (w.registeredSlots.find? (·.1 == id)).isSome :=
    List.find?_isSome.mpr ⟨_, member, beq_self_eq_true id⟩
  obtain ⟨p, found⟩ := Option.isSome_iff_exists.mp some
  have named := List.find?_some found
  simp only [beq_iff_eq] at named
  refine ⟨p.2, by rw [found, ← named], ?_⟩
  rw [findTarget?, if_pos registered, slotOf?_of_find? found]

theorem findTarget?_eq_none_iff (indexed : w.Indexed) :
    w.findTarget? id = none ↔ w.isRegistered id = false := by
  constructor
  · intro missing
    rcases registered : w.isRegistered id
    · rfl
    obtain ⟨slot, -, found⟩ := indexed.findTarget?_registered registered
    rw [missing] at found
    cases found
  · intro unregistered
    rw [findTarget?, unregistered]
    rfl

theorem findTarget?_some (indexed : w.Indexed) (slotted : w.findTarget? id = some slot) :
    w.isRegistered id = true ∧ w.registeredSlots.find? (·.1 == id) = some (id, slot) ∧
      ∃ a, w.record? slot = some a ∧ a.id = id := by
  have registered : w.isRegistered id = true := by
    rcases unregistered : w.isRegistered id
    · rw [(indexed.findTarget?_eq_none_iff).mpr unregistered] at slotted
      cases slotted
    · rfl
  obtain ⟨s, found, target⟩ := indexed.findTarget?_registered registered
  rw [slotted] at target
  cases target
  exact ⟨registered, found, indexed.holds _ (List.mem_of_find?_eq_some found)⟩

theorem unslotted (indexed : w.Indexed) (unregistered : w.isRegistered id = false) :
    ∀ p ∈ w.registeredSlots, p.1 ≠ id := by
  intro p member named
  have registered := indexed.listed p member
  rw [named, unregistered] at registered
  cases registered

theorem of_catalog (indexed : w.Indexed) (holds : w'.SlotsHold) (registry : w'.registry = w.registry)
    (slots : w'.registeredSlots = w.registeredSlots) : w'.Indexed where
  nodup := registry ▸ indexed.nodup
  holds := holds
  listed p member := by
    rw [isRegistered, registry]
    exact indexed.listed p (slots ▸ member)
  slotted id registered := by
    rw [isRegistered, registry] at registered
    rw [slots]
    exact indexed.slotted id registered

theorem enroll (indexed : w.Indexed) {a : Activation} (unregistered : w.isRegistered a.id = false) :
    (w.enroll a).1.Indexed := by
  have fresh : a.id ∉ w.registry.ids := by simpa [isRegistered] using unregistered
  have ids : (w.enroll a).1.registry.ids = w.registry.ids ++ [a.id] :=
    Registry.record_ids_of_not_mem fresh
  have found : ∀ i, (w.enroll a).1.record? i = if i = w.records.size then some a else w.record? i :=
    record?_addRecord w a
  refine ⟨?_, ?_, ?_, ?_⟩
  · rw [ids]
    exact indexed.nodup.append (List.nodup_singleton a.id)
      (List.disjoint_singleton.mpr fresh)
  · intro p member
    rcases List.mem_append.mp member with old | new
    · obtain ⟨b, held, named⟩ := indexed.holds p old
      refine ⟨b, ?_, named⟩
      rw [found, if_neg (Nat.ne_of_lt (lt_size_of_record? held)), held]
    · rw [List.mem_singleton.mp new]
      exact ⟨a, by rw [found, if_pos rfl], rfl⟩
  · intro p member
    rw [isRegistered_iff, ids]
    rcases List.mem_append.mp member with old | new
    · exact List.mem_append_left _ ((isRegistered_iff).mp (indexed.listed p old))
    · rw [List.mem_singleton.mp new]
      exact List.mem_append_right _ (List.mem_singleton_self _)
  · intro id registered
    rw [isRegistered_iff, ids] at registered
    rcases List.mem_append.mp registered with old | new
    · obtain ⟨slot, member⟩ := indexed.slotted id ((isRegistered_iff).mpr old)
      exact ⟨slot, List.mem_append_left _ member⟩
    · rw [List.mem_singleton.mp new]
      exact ⟨w.records.size, List.mem_append_right _ (List.mem_singleton_self _)⟩

theorem unregister (indexed : w.Indexed) (a : Activation) :
    ({ w with
        registry := (w.registry.remove a).1
        registeredSlots := w.registeredSlots.filter (·.1 != a.id) } : World γ).Indexed := by
  refine ⟨?_, ?_, ?_, ?_⟩
  · rw [Registry.remove_ids]
    exact indexed.nodup.erase a.id
  · intro p member
    exact indexed.holds p (List.mem_filter.mp member).1
  · intro p member
    obtain ⟨held, other⟩ := List.mem_filter.mp member
    simp only [bne_iff_ne, ne_eq] at other
    rw [isRegistered_iff, Registry.remove_ids]
    exact (List.mem_erase_of_ne other).mpr ((isRegistered_iff).mp (indexed.listed p held))
  · intro id registered
    rw [isRegistered_iff, Registry.remove_ids] at registered
    obtain ⟨other, held⟩ := (indexed.nodup.mem_erase_iff).mp registered
    obtain ⟨slot, member⟩ := indexed.slotted id ((isRegistered_iff).mpr held)
    exact ⟨slot, List.mem_filter.mpr ⟨member, by simpa using other⟩⟩

theorem findTarget?_enroll (indexed : w.Indexed) {a : Activation}
    (unregistered : w.isRegistered a.id = false) :
    (w.enroll a).1.findTarget? a.id = some w.records.size := by
  have registered : (w.enroll a).1.isRegistered a.id = true :=
    (isRegistered_iff).mpr (Registry.mem_record_ids _ a)
  have absent : w.registeredSlots.find? (·.1 == a.id) = none :=
    List.find?_eq_none.mpr fun p member => by simpa using indexed.unslotted unregistered p member
  have found : (w.enroll a).1.registeredSlots.find? (·.1 == a.id) = some (a.id, w.records.size) := by
    show (w.registeredSlots ++ [(a.id, w.records.size)]).find? (·.1 == a.id) = _
    rw [List.find?_append, absent]
    simp
  rw [findTarget?, if_pos registered, slotOf?_of_find? found]

end Indexed

theorem Change.indexed (change : w.Change w') (indexed : w.Indexed) : w'.Indexed := by
  have holds := (change.advances indexed.holds).1
  cases change with
  | outside _ _ _ registry slots _ _ => exact indexed.of_catalog holds registry slots
  | record _ _ => exact indexed.of_catalog holds rfl rfl
  | reticket _ _ => exact indexed.of_catalog holds rfl rfl
  | wheel c => exact indexed.of_catalog holds rfl rfl
  | rescan _ =>
    exact indexed.of_catalog holds (registry_putNewest w _) (registeredSlots_putNewest w _)
  | create _ unregistered => exact indexed.enroll ((indexed.findTarget?_eq_none_iff).mp unregistered)
  | leave _ => exact indexed.unregister _
  | directory _ => exact indexed.of_catalog holds rfl rfl

theorem Change.findTarget?_kept (change : w.Change w') (indexed : w.Indexed)
    (slotted : w.findTarget? id = some slot) (still : w'.isRegistered id = true) :
    w'.findTarget? id = some slot := by
  obtain ⟨registered, found, -⟩ := indexed.findTarget?_some slotted
  suffices kept : w'.registeredSlots.find? (·.1 == id) = some (id, slot) by
    rw [findTarget?, if_pos still, slotOf?_of_find? kept]
  cases change with
  | outside _ _ _ _ slots _ _ => rwa [slots]
  | record _ _ => exact found
  | reticket _ _ => exact found
  | wheel c => exact found
  | rescan _ => rwa [registeredSlots_putNewest]
  | @create a _ unregistered =>
    show (w.registeredSlots ++ [(a.id, w.records.size)]).find? (·.1 == id) = some (id, slot)
    rw [List.find?_append, found]
    rfl
  | @leave _ a _ =>
    -- the id that leaves is no longer registered, so it is another one
    have other : id ≠ a.id := by
      rintro rfl
      rw [isRegistered_iff, Registry.remove_ids] at still
      exact (indexed.nodup.mem_erase_iff.mp still).1 rfl
    show (w.registeredSlots.filter (·.1 != a.id)).find? (·.1 == id) = some (id, slot)
    have same : (fun p : Nat × Nat => decide ((p.1 != a.id) = true ∧ (p.1 == id) = true)) =
        (·.1 == id) := by
      funext p
      by_cases named : p.1 = id <;> simp [named, other]
    rw [List.find?_filter, same, found]
  | directory _ => exact found

theorem Changes.findTarget?_kept
    (changes : Relation.ReflTransGen (fun u v : World γ => u.Change v ∧ v.isRegistered id = true) w w')
    (indexed : w.Indexed) (slotted : w.findTarget? id = some slot) :
    w'.findTarget? id = some slot ∧ w'.Indexed := by
  induction changes with
  | refl => exact ⟨slotted, indexed⟩
  | tail _ last ih =>
    obtain ⟨kept, indexed'⟩ := ih
    exact ⟨last.1.findTarget?_kept indexed' kept last.2, last.1.indexed indexed'⟩

end World

namespace SiloM

variable {γ : Type} {w : World γ} {now : Instant} {slot : Nat} {a : Activation}
  {target : ActivationAddress} {placement : Option PlacementStrategy}

open Async

theorem rescheduleCollection_overflows (found : w.record? slot = some a)
    (overflowing : w.collector.Overflows a a.ageLimit now) :
    Fails (rescheduleCollection slot : SiloM γ Unit) now w w [] ClockOverflow.message := by
  unfold rescheduleCollection
  refine fails_bind_record? ?_
  rw [found]
  simp only [overflowing.1, Bool.false_eq_true, if_false]
  refine (runs_get now w).bind_fails ((runs_now now w).bind_fails ?_)
  rw [Collector.reschedule_overflows overflowing]
  exact fails_panic _ now w

theorem rescheduleCollection_fits (found : w.record? slot = some a)
    (fits : ¬w.collector.Overflows a a.ageLimit now) :
    ∃ w', Runs (rescheduleCollection slot : SiloM γ Unit) now w () w' [] ∧
      w'.registry = w.registry ∧ w'.registeredSlots = w.registeredSlots ∧
      World.Related Activation.Reticketed w w' := by
  unfold rescheduleCollection
  by_cases exempt : a.isExempt = true
  · refine ⟨w, runs_bind_record? ?_, rfl, rfl, .refl .refl w⟩
    rw [found]
    simp only [exempt, if_true]
    exact runs_pure () now w
  rcases moved : w.collector.reschedule a a.ageLimit now with e | ⟨c, b, _⟩
  · exact absurd (Collector.overflows_of_reschedule moved) fits
  refine ⟨{ w.putRecord slot b with collector := c }, runs_bind_record? ?_, rfl, rfl,
    (World.Related.refl .refl w).putRecord slot found (Collector.reschedule_reticketed moved)⟩
  rw [found]
  simp only [exempt]
  refine (runs_get now w).bind ((runs_now now w).bind ?_)
  rw [moved]
  exact runs_modify _ now w

theorem getOrCreate_unknown {p : PlacementStrategy} (placed : placement = some p)
    (unknown : w.types.get? target.grain.grainType = none) :
    Runs (getOrCreate target placement : SiloM γ _) now w
      (.error (.unknownGrainType target.grain.grainType)) w [] := by
  subst placed
  unfold getOrCreate
  refine (runs_get now w).bind ?_
  simp only [unknown]
  exact runs_pure _ now w

theorem getOrCreate_of_found (typed : placement = none ∨ (w.types.get? target.grain.grainType).isSome)
    (slotted : w.findTarget? target.activation = some slot) (k) (next : Nat) :
    (getOrCreate target placement k : Program (World γ) Event Proc).settle now next w =
      ((do rescheduleCollection slot; pure (.ok (slot, none)) :
        SiloM γ (Except CatalogError (Nat × Option Nat))) k).settle now next w := by
  unfold getOrCreate
  rw [(runs_get now w).settle_bind]
  rcases placement with _ | p
  · simp only [slotted]
    rfl
  · rcases known : w.types.get? target.grain.grainType with _ | t
    · simp [known] at typed
    · simp only [slotted]
      rfl

theorem getOrCreate_missing (unplaced : placement = none)
    (missing : w.findTarget? target.activation = none) :
    Runs (getOrCreate target placement : SiloM γ _) now w (.error (.nonExistentActivation target)) w [] := by
  subst unplaced
  intro k next
  unfold getOrCreate
  rw [(runs_get now w).settle_bind]
  simp only [missing]
  rfl

theorem getOrCreate_creates {p : PlacementStrategy} {t : GrainType} (placed : placement = some p)
    (known : w.types.get? target.grain.grainType = some t)
    (missing : w.findTarget? target.activation = none) (next : Nat) :
    RunsAt (getOrCreate target placement : SiloM γ _) now next w (.ok (w.records.size, some next))
      (w.enroll (w.newRecord target t now)).1 [(Async.call (.init w.records.size)).toProgram] := by
  subst placed
  intro k
  unfold getOrCreate
  rw [(runs_get now w).settle_bind]
  simp only [known, missing]
  rfl

theorem getOrCreate_found (typed : placement = none ∨ (w.types.get? target.grain.grainType).isSome)
    (slotted : w.findTarget? target.activation = some slot) (found : w.record? slot = some a) :
    (w.collector.Overflows a a.ageLimit now →
      Fails (getOrCreate target placement : SiloM γ _) now w w [] ClockOverflow.message) ∧
    (¬w.collector.Overflows a a.ageLimit now →
      ∃ w', Runs (getOrCreate target placement : SiloM γ _) now w (.ok (slot, none)) w' [] ∧
        w'.registry = w.registry ∧ w'.registeredSlots = w.registeredSlots ∧
        World.Related Activation.Reticketed w w') := by
  refine ⟨fun overflowing k next => ?_, fun fits => ?_⟩
  · rw [getOrCreate_of_found typed slotted]
    exact (rescheduleCollection_overflows found overflowing).bind k next
  · obtain ⟨w', runs, registry, slots, related⟩ := rescheduleCollection_fits found fits
    refine ⟨w', fun k next => ?_, registry, slots, related⟩
    rw [getOrCreate_of_found typed slotted]
    exact (runs.bind (runs_pure (.ok (slot, none) : Except CatalogError (Nat × Option Nat)) now w'))
      k next

theorem getOrCreate_registered_answer (indexed : w.Indexed)
    (typed : placement = none ∨ (w.types.get? target.grain.grainType).isSome)
    (registered : w.isRegistered target.activation = true) {next : Nat}
    {r : Except CatalogError (Nat × Option Nat)} {w' : World γ}
    {started : List (Program (World γ) Event Proc)}
    (runs : RunsAt (getOrCreate target placement : SiloM γ _) now next w r w' started) :
    ∃ slot, r = .ok (slot, none) := by
  obtain ⟨slot, -, slotted⟩ := indexed.findTarget?_registered registered
  obtain ⟨-, -, a, found, -⟩ := indexed.findTarget?_some slotted
  by_cases overflowing : w.collector.Overflows a a.ageLimit now
  · exact (runs.not_fails ((getOrCreate_found typed slotted found).1 overflowing)).elim
  · obtain ⟨w'', found', -⟩ := (getOrCreate_found typed slotted found).2 overflowing
    exact ⟨slot, runs.answer_eq (found'.runsAt next)⟩

theorem getOrCreate_makes_iff (indexed : w.Indexed) (next : Nat) :
    (∃ slot task w' started,
        RunsAt (getOrCreate target placement : SiloM γ _) now next w (.ok (slot, some task)) w' started) ↔
      w.isRegistered target.activation = false ∧ placement.isSome ∧
        (w.types.get? target.grain.grainType).isSome := by
  constructor
  · rintro ⟨slot, task, w', started, runs⟩
    have refused : ∀ e, RunsAt (getOrCreate target placement : SiloM γ _) now next w (.error e) w [] →
        False := fun e refusal => nomatch runs.answer_eq refusal
    -- the other branches answer otherwise, or stop the silo
    have unregistered : w.isRegistered target.activation = false := by
      rcases registered : w.isRegistered target.activation
      · rfl
      have typed : placement = none ∨ (w.types.get? target.grain.grainType).isSome := by
        rcases placement with _ | p
        · exact .inl rfl
        rcases known : w.types.get? target.grain.grainType with _ | t
        · exact (refused _ ((getOrCreate_unknown rfl known).runsAt next)).elim
        · exact .inr rfl
      obtain ⟨s, answered⟩ := getOrCreate_registered_answer indexed typed registered runs
      cases answered
    have missing := (indexed.findTarget?_eq_none_iff).mpr unregistered
    rcases placement with _ | p
    · exact (refused _ ((getOrCreate_missing rfl missing).runsAt next)).elim
    rcases known : w.types.get? target.grain.grainType with _ | t
    · exact (refused _ ((getOrCreate_unknown rfl known).runsAt next)).elim
    · exact ⟨unregistered, rfl, rfl⟩
  · rintro ⟨unregistered, placed, typed⟩
    obtain ⟨p, placement_eq⟩ := Option.isSome_iff_exists.mp placed
    obtain ⟨t, known⟩ := Option.isSome_iff_exists.mp typed
    exact ⟨_, _, _, _, getOrCreate_creates placement_eq known
      ((indexed.findTarget?_eq_none_iff).mpr unregistered) next⟩

theorem getOrCreate_later {w' : World γ} (indexed : w.Indexed)
    (slotted : w.findTarget? target.activation = some slot)
    (changes : Relation.ReflTransGen
      (fun u v : World γ => u.Change v ∧ v.isRegistered target.activation = true) w w')
    (typed : placement = none ∨ (w'.types.get? target.grain.grainType).isSome) :
    ∃ a, w'.record? slot = some a ∧ a.id = target.activation ∧
      (w'.collector.Overflows a a.ageLimit now ∧
          Fails (getOrCreate target placement : SiloM γ _) now w' w' [] ClockOverflow.message ∨
        ¬w'.collector.Overflows a a.ageLimit now ∧
          ∃ w'', Runs (getOrCreate target placement : SiloM γ _) now w' (.ok (slot, none)) w'' [] ∧
            w''.registry = w'.registry ∧ w''.registeredSlots = w'.registeredSlots) := by
  obtain ⟨kept, indexed'⟩ := World.Changes.findTarget?_kept changes indexed slotted
  obtain ⟨-, -, a, found, named⟩ := indexed'.findTarget?_some kept
  refine ⟨a, found, named, ?_⟩
  by_cases overflowing : w'.collector.Overflows a a.ageLimit now
  · exact .inl ⟨overflowing, (getOrCreate_found typed kept found).1 overflowing⟩
  · obtain ⟨w'', runs, registry, slots, -⟩ := (getOrCreate_found typed kept found).2 overflowing
    exact .inr ⟨overflowing, w'', runs, registry, slots⟩

end SiloM

theorem World.ageLimitOf_eq {γ : Type} (w : World γ) (t : GrainType) :
    w.ageLimitOf t = t.ageLimit.getD (((w.config.collection.ageLimits.find? (·.1 == t.name)).map
      (·.2)).getD w.config.collection.defaultAgeLimit) := by
  unfold World.ageLimitOf CollectionConfig.ageLimitFor
  split
  · rename_i d configured
    rw [configured]
    rfl
  · rename_i unconfigured
    rw [unconfigured]
    rfl

open SiloM Async in
/-- The catalog makes an activation's record at most once, and its refusals change nothing. In a
world whose registry and registered slots index each other, a call for an address
* makes a record exactly when the address's activation id is unregistered and a placement comes
  with a known grain type: a record in state `create` holding the request limit of stateless
  workers exactly for a stateless worker type, and the age limit of the type, else of its name,
  else the default; it is registered under the id in a new slot, and a task is started to start
  it;
* from then on, for as long as the id stays registered, whatever else changes, answers every call
  for the id that names no unknown grain type with that slot, moving on only the record's
  collection ticket, except that where the ticket would move past the end of the clock the silo
  stops and the call is never answered;
* refuses an unregistered id without a placement, and a placement of an unknown grain type, and
  leaves the world as it was. -/
theorem getOrCreate_makes_each_record_once {γ : Type} {w : World γ} (indexed : w.Indexed)
    (now : Instant) (next : Nat) (target : ActivationAddress) (placement : Option PlacementStrategy) :
    ((∃ slot task w' started, RunsAt (getOrCreate target placement : SiloM γ _) now next w
        (.ok (slot, some task)) w' started) ↔
      w.isRegistered target.activation = false ∧ placement.isSome ∧
        (w.types.get? target.grain.grainType).isSome) ∧
    (∀ p t a, placement = some p → w.types.get? target.grain.grainType = some t →
      w.isRegistered target.activation = false →
      a = Activation.make target t
        (if t.statelessWorker then w.config.limits.maxEnqueuedRequestsStatelessWorker
          else w.config.limits.maxEnqueuedRequests)
        (t.ageLimit.getD (((w.config.collection.ageLimits.find? (·.1 == t.name)).map (·.2)).getD
          w.config.collection.defaultAgeLimit)) now →
      RunsAt (getOrCreate target placement : SiloM γ _) now next w (.ok (w.records.size, some next))
          (w.enroll a).1 [(Async.call (.init w.records.size)).toProgram] ∧
        (w.enroll a).1.findTarget? target.activation = some w.records.size ∧ (w.enroll a).1.Indexed) ∧
    (∀ (w' : World γ) slot placement' now', w.findTarget? target.activation = some slot →
      Relation.ReflTransGen
        (fun u v : World γ => u.Change v ∧ v.isRegistered target.activation = true) w w' →
      placement' = none ∨ (w'.types.get? target.grain.grainType).isSome →
      ∃ a, w'.record? slot = some a ∧ a.id = target.activation ∧
        (w'.collector.Overflows a a.ageLimit now' ∧
            Fails (getOrCreate target placement' : SiloM γ _) now' w' w' [] ClockOverflow.message ∨
          ¬w'.collector.Overflows a a.ageLimit now' ∧
            ∃ w'', Runs (getOrCreate target placement' : SiloM γ _) now' w' (.ok (slot, none)) w'' [] ∧
              w''.registry = w'.registry ∧ w''.registeredSlots = w'.registeredSlots)) ∧
    (placement = none → w.isRegistered target.activation = false →
      Runs (getOrCreate target placement : SiloM γ _) now w (.error (.nonExistentActivation target))
        w []) ∧
    (placement.isSome → w.types.get? target.grain.grainType = none →
      Runs (getOrCreate target placement : SiloM γ _) now w
        (.error (.unknownGrainType target.grain.grainType)) w []) := by
  refine ⟨getOrCreate_makes_iff indexed next, ?_, ?_, ?_, ?_⟩
  · intro p t a placed known unregistered record
    have made : a = w.newRecord target t now := by
      rw [record, World.newRecord, World.ageLimitOf_eq]
      rfl
    subst made
    exact ⟨getOrCreate_creates placed known ((indexed.findTarget?_eq_none_iff).mpr unregistered) next,
      indexed.findTarget?_enroll unregistered, indexed.enroll unregistered⟩
  · intro w' slot placement' now' slotted changes typed
    exact getOrCreate_later indexed slotted changes typed
  · intro unplaced unregistered
    exact getOrCreate_missing unplaced ((indexed.findTarget?_eq_none_iff).mpr unregistered)
  · intro placed unknown
    obtain ⟨p, placement_eq⟩ := Option.isSome_iff_exists.mp placed
    exact getOrCreate_unknown placement_eq unknown

theorem freshSilo_indexed : freshSilo.Indexed where
  nodup := List.nodup_nil
  holds := freshSilo_slotsHold
  listed p member := by simp [freshSilo] at member
  slotted id registered := by simp [freshSilo, World.isRegistered] at registered

/-- A grain type whose records age out only past the end of the clock. -/
def agelessCounter : GrainType := { code := 1, name := "Counter", ageLimit := some .max }

/-- The fresh silo, knowing `agelessCounter`. -/
def agelessSilo : World Scenario.Bench := { freshSilo with types := ⟨[agelessCounter]⟩ }

/-- An activation of an `agelessCounter` grain. -/
def agelessAddress : ActivationAddress := ⟨SiloAddress.localhost 11111 0, ⟨1, "a", .grain⟩, 5⟩

/-- In `agelessSilo` a call with a placement makes the record of `agelessAddress`; once the record
holds a live collection ticket, a later call for it stops the silo on the clock overflow instead of
answering. -/
theorem ageless_record_stops_later_call :
    ∃ (w₁ w₂ : World Scenario.Bench) (started : List (Program (World Scenario.Bench) Event Proc)),
      Async.RunsAt (SiloM.getOrCreate agelessAddress (some .preferLocal)) 0 0 agelessSilo
        (.ok (0, some 0)) w₁ started ∧
      Relation.ReflTransGen
        (fun u v : World Scenario.Bench => u.Change v ∧ v.isRegistered 5 = true) w₁ w₂ ∧
      Async.Fails (SiloM.getOrCreate agelessAddress none : SiloM Scenario.Bench _) 0 w₂ w₂ []
        ClockOverflow.message := by
  have indexed : agelessSilo.Indexed := freshSilo_indexed.of_catalog freshSilo_slotsHold rfl rfl
  let a := Activation.make agelessAddress agelessCounter
    (if agelessCounter.statelessWorker then agelessSilo.config.limits.maxEnqueuedRequestsStatelessWorker
      else agelessSilo.config.limits.maxEnqueuedRequests)
    (agelessCounter.ageLimit.getD (((agelessSilo.config.collection.ageLimits.find?
      (·.1 == agelessCounter.name)).map (·.2)).getD agelessSilo.config.collection.defaultAgeLimit)) 0
  obtain ⟨made, slotted, indexed₁⟩ := (getOrCreate_makes_each_record_once indexed 0 0 agelessAddress
    (some .preferLocal)).2.1 .preferLocal agelessCounter a rfl rfl rfl rfl
  -- the record is then given a live collection ticket
  let b : Activation := { a with ticket := some 3 }
  have held : (agelessSilo.enroll a).1.record? 0 = some a := rfl
  have chain : Relation.ReflTransGen (fun u v : World Scenario.Bench => u.Change v ∧
      v.isRegistered 5 = true) (agelessSilo.enroll a).1 ((agelessSilo.enroll a).1.putRecord 0 b) :=
    .single ⟨.reticket held rfl, rfl⟩
  obtain ⟨b', found, -, answer⟩ := (getOrCreate_makes_each_record_once indexed₁ 0 0 agelessAddress
    none).2.2.1 _ 0 none 0 slotted chain (.inl rfl)
  have same : b' = b := Option.some.inj (found.symm.trans rfl)
  subst same
  rcases answer with ⟨-, fails⟩ | ⟨fits, -⟩
  · exact ⟨_, _, _, made, chain, fails⟩
  · exact absurd ⟨rfl, ⟨3, rfl, by decide⟩, by decide, by decide⟩ fits

end ActorSilo
