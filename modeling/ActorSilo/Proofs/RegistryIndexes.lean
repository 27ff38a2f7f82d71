import ActorSilo.Proofs.KeyedLists

/-! # The indexes of the registry agree

The registry indexes the activations a silo hosts by id, by grain and by type name, and updates
the three in separate steps; removal finds an activation by its id but cleans the other indexes
through the grain and type name of the activation it is given. `Registry.Describes r recs` says
the indexes describe the recorded activations `recs`, oldest first; recording a new id and
removing a recorded one keep it (`Describes.record_fresh`, `Describes.remove_held`).

**Main result:** `Registry.indexes_agree`.
-/

namespace ActorSilo

namespace Registry

variable {r : Registry} {a b : Activation} {recs : List Activation} {counts : List (String × Nat)}
  {name : String} {c : Nat}

/-! ## Recording and removing, step by step -/

theorem targets_eq (r : Registry) (g : GrainId) : r.targets g = (valueAt r.byGrain g).getD [] :=
  rfl

theorem setTargets_eq (r : Registry) (g : GrainId) (ids : List Nat) :
    r.setTargets g ids = { r with byGrain := setKeyed r.byGrain g ids } := by
  unfold setTargets setKeyed valueAt
  rw [Option.isSome_map]
  by_cases empty : ids.isEmpty
  · rw [if_pos empty, if_pos empty]
  · rw [if_neg empty, if_neg empty]
    by_cases held : (r.byGrain.find? (·.1 == g)).isSome
    · rw [if_pos held, if_pos held]
      congr 1
      refine List.map_congr_left fun p _ => ?_
      obtain ⟨key, w⟩ := p
      by_cases same : key = g <;> simp [same]
    · rw [if_neg held, if_neg held]

theorem record_of_mem (held : a.id ∈ r.ids) : r.record a = r := by
  rw [record, if_pos (List.contains_iff_mem.mpr held)]

theorem record_of_fresh (fresh : a.id ∉ r.ids) :
    r.record a = ⟨r.ids ++ [a.id], setKeyed r.byGrain a.grain (r.targets a.grain ++ [a.id]),
      bump r.perType a.grainType.name true⟩ := by
  rw [record, if_neg (by simpa using fresh)]
  simp only [setTargets_eq]
  rfl

theorem remove_of_fresh (fresh : a.id ∉ r.ids) : r.remove a = (r, false) := by
  rw [remove, if_pos (by simpa using fresh)]

theorem remove_of_mem (held : a.id ∈ r.ids) :
    r.remove a = (⟨r.ids.erase a.id,
      setKeyed r.byGrain a.grain ((r.targets a.grain).filter (· != a.id)),
      bump r.perType a.grainType.name false⟩, true) := by
  rw [remove, if_neg (by simpa using held)]
  simp only [setTargets_eq]
  rfl

/-! ## Counting by type name -/

theorem bump_up (counts : List (String × Nat)) (name : String) :
    bump counts name true =
      counts.filter (·.1 != name) ++ [(name, (valueAt counts name).getD 0 + 1)] := by
  rw [bump]
  rfl

theorem bump_down (counts : List (String × Nat)) (name : String) :
    bump counts name false =
      if (valueAt counts name).getD 0 - 1 = 0 then counts.filter (·.1 != name)
      else counts.filter (·.1 != name) ++ [(name, (valueAt counts name).getD 0 - 1)] := by
  unfold bump
  simp only [Bool.false_eq_true, if_false, beq_iff_eq]
  rfl

theorem valueAt_bump_up (counts : List (String × Nat)) (name k : String) :
    valueAt (bump counts name true) k =
      if k = name then some ((valueAt counts name).getD 0 + 1) else valueAt counts k := by
  rw [bump_up, valueAt_append_fresh (by simp [valueAt_filter_ne]), valueAt_filter_ne]
  by_cases here : k = name <;> simp [here]

theorem valueAt_bump_down (now : (valueAt counts name).getD 0 = c + 1) (k : String) :
    valueAt (bump counts name false) k =
      if k = name then (if c = 0 then none else some c) else valueAt counts k := by
  rw [bump_down, now, Nat.add_sub_cancel]
  by_cases empty : c = 0
  · rw [if_pos empty, valueAt_filter_ne]
    by_cases here : k = name <;> simp [here, empty]
  · rw [if_neg empty, valueAt_append_fresh (by simp [valueAt_filter_ne]), valueAt_filter_ne]
    by_cases here : k = name <;> simp [here, empty]

theorem valueAt_bump_ne_zero (counted : ∀ k, valueAt counts k ≠ some 0) (name : String)
    (up : Bool) (k : String) : valueAt (bump counts name up) k ≠ some 0 := by
  cases up
  · rw [bump_down]
    split
    · rw [valueAt_filter_ne]
      split
      · simp
      · exact counted k
    · rename_i left
      rw [valueAt_append_fresh (by simp [valueAt_filter_ne]), valueAt_filter_ne]
      by_cases here : k = name
      · simpa [here] using left
      · simpa [here] using counted k
  · rw [valueAt_bump_up]
    split
    · simp
    · exact counted k

theorem keysOf_bump_nodup (nodup : (keysOf counts).Nodup) (name : String) (up : Bool) :
    (keysOf (bump counts name up)).Nodup := by
  have rest := keysOf_filter_nodup nodup (·.1 != name)
  have fresh : valueAt (counts.filter (·.1 != name)) name = none := by simp [valueAt_filter_ne]
  cases up
  · rw [bump_down]
    split
    · exact rest
    · exact keysOf_append_fresh_nodup rest fresh _
  · rw [bump_up]
    exact keysOf_append_fresh_nodup rest fresh _

theorem sum_bump_up (nodup : (keysOf counts).Nodup) (name : String) :
    ((bump counts name true).map (·.2)).sum = (counts.map (·.2)).sum + 1 := by
  rw [bump_up, sum_filter_ne counts name nodup]
  simp only [List.map_append, List.sum_append, List.map_cons, List.map_nil, List.sum_cons,
    List.sum_nil]
  omega

theorem sum_bump_down (nodup : (keysOf counts).Nodup) (now : (valueAt counts name).getD 0 = c + 1) :
    ((bump counts name false).map (·.2)).sum + 1 = (counts.map (·.2)).sum := by
  rw [bump_down, sum_filter_ne counts name nodup, now, Nat.add_sub_cancel]
  split
  · rename_i empty
    rw [empty]
  · simp only [List.map_append, List.sum_append, List.map_cons, List.map_nil, List.sum_cons,
      List.sum_nil]
    omega

/-! ## The indexes describe the recorded activations -/

/-- The indexes of `r` describe the recorded activations `recs`, oldest first. -/
structure Describes (r : Registry) (recs : List Activation) : Prop where
  ids : r.ids = recs.map (·.id)
  nodup : (recs.map (·.id)).Nodup
  grains : (keysOf r.byGrain).Nodup
  targets : ∀ g, r.targets g = (recs.filter (·.grain == g)).map (·.id)
  filled : ∀ g, valueAt r.byGrain g ≠ some []
  names : (keysOf r.perType).Nodup
  counts : ∀ k, (valueAt r.perType k).getD 0 = recs.countP (·.grainType.name == k)
  counted : ∀ k, valueAt r.perType k ≠ some 0
  total : (r.perType.map (·.2)).sum = recs.length

theorem describes_empty : Describes {} [] where
  ids := rfl
  nodup := List.nodup_nil
  grains := List.nodup_nil
  targets _ := rfl
  filled _ := by simp
  names := List.nodup_nil
  counts _ := rfl
  counted _ := by simp
  total := rfl

namespace Describes

variable (described : Describes r recs)
include described

theorem record_fresh (fresh : a.id ∉ r.ids) : Describes (r.record a) (recs ++ [a]) := by
  have unlisted : a.id ∉ recs.map (·.id) := described.ids ▸ fresh
  rw [record_of_fresh fresh]
  refine ⟨by rw [described.ids, List.map_append]; rfl, ?_,
    keysOf_setKeyed_nodup described.grains _ _, fun g => ?_,
    valueAt_setKeyed_ne_nil described.filled _ _, keysOf_bump_nodup described.names _ true,
    fun k => ?_, valueAt_bump_ne_zero described.counted _ true, ?_⟩
  · rw [List.map_append, List.map_singleton, ← List.concat_eq_append]
    exact List.Nodup.concat unlisted described.nodup
  · rw [targets_eq, valueAt_setKeyed, List.filter_append]
    by_cases here : g = a.grain
    · subst here
      simp [described.targets]
    · simp [here, Ne.symm here, ← targets_eq, described.targets]
  · rw [valueAt_bump_up, List.countP_append]
    by_cases here : k = a.grainType.name
    · subst here
      simp [described.counts]
    · simp [here, Ne.symm here, described.counts]
  · rw [sum_bump_up described.names, described.total, List.length_append, List.length_singleton]

theorem split_at (held : a.id ∈ r.ids) :
    ∃ pre b post, recs = pre ++ b :: post ∧ b.id = a.id ∧ a.id ∉ (pre ++ post).map (·.id) := by
  rw [described.ids, List.mem_map] at held
  obtain ⟨b, listed, same⟩ := held
  obtain ⟨pre, post, rfl⟩ := List.append_of_mem listed
  refine ⟨pre, b, post, rfl, same, fun again => ?_⟩
  have nodup := described.nodup
  rw [List.map_append, List.map_cons, List.nodup_append] at nodup
  rw [List.map_append, List.mem_append] at again
  rcases again with early | late
  · exact nodup.2.2 _ early _ List.mem_cons_self same.symm
  · exact (List.nodup_cons.mp nodup.2.1).1 (same ▸ late)

theorem record_held (held : a.id ∈ r.ids) : Describes (r.record a) recs := by
  rw [record_of_mem held]
  exact described

theorem remove_fresh (fresh : a.id ∉ r.ids) :
    Describes (r.remove a).1 (recs.filter (·.id != a.id)) := by
  have unlisted : a.id ∉ recs.map (·.id) := described.ids ▸ fresh
  have kept : recs.filter (·.id != a.id) = recs :=
    List.filter_eq_self.mpr fun x listed =>
      bne_iff_ne.mpr fun same => unlisted (same ▸ List.mem_map_of_mem listed)
  rw [kept, remove_of_fresh fresh]
  exact described

/-- Removing a recorded id drops its activation, when the activation given for the id has the
grain and the type name of the recorded one. -/
theorem remove_held (held : a.id ∈ r.ids)
    (coherent : ∀ b ∈ recs, b.id = a.id →
      b.grain = a.grain ∧ b.grainType.name = a.grainType.name) :
    Describes (r.remove a).1 (recs.filter (·.id != a.id)) := by
  obtain ⟨pre, b, post, split, same, unlisted⟩ := described.split_at held
  obtain ⟨grain, named⟩ := coherent b (by simp [split]) same
  have others : ∀ x ∈ pre ++ post, (x.id != a.id) = true := fun x listed =>
    bne_iff_ne.mpr fun eq => unlisted (eq ▸ List.mem_map_of_mem listed)
  have kept : recs.filter (·.id != a.id) = pre ++ post := by
    rw [split, List.filter_append, List.filter_cons, if_neg (by simp [same]), ← List.filter_append]
    exact List.filter_eq_self.mpr others
  -- the grain and the name of the dropped activation are those of the activation given
  have without (p : Activation → Bool) (away : p b = false) :
      recs.filter p = (pre ++ post).filter p := by
    rw [split, List.filter_append, List.filter_cons, if_neg (by simp [away]), List.filter_append]
  have count (p : Activation → Bool) :
      recs.countP p = (pre ++ post).countP p + if p b then 1 else 0 := by
    rw [split, List.countP_append, List.countP_cons, List.countP_append]
    omega
  have now : (valueAt r.perType a.grainType.name).getD 0 =
      (pre ++ post).countP (·.grainType.name == a.grainType.name) + 1 := by
    rw [described.counts, count, if_pos (by simp [named])]
  rw [kept, remove_of_mem held]
  refine ⟨?_, ?_, keysOf_setKeyed_nodup described.grains _ _, fun g => ?_,
    valueAt_setKeyed_ne_nil described.filled _ _, keysOf_bump_nodup described.names _ false,
    fun k => ?_, valueAt_bump_ne_zero described.counted _ false, ?_⟩
  · have outside : a.id ∉ pre.map (·.id) := fun early =>
      unlisted (by rw [List.map_append]; exact List.mem_append_left _ early)
    rw [described.ids, split, List.map_append, List.map_cons, List.erase_append_right _ outside,
      same, List.erase_cons_head, List.map_append]
  · have sub : (pre ++ post).Sublist recs := split ▸ (List.sublist_cons_self b post).append_left pre
    exact (sub.map _).nodup described.nodup
  · rw [targets_eq, valueAt_setKeyed]
    by_cases here : g = a.grain
    · subst here
      have cut : ((r.targets a.grain).filter (· != a.id)) =
          ((pre ++ post).filter (·.grain == a.grain)).map (·.id) := by
        rw [described.targets, List.filter_map, ← kept, List.filter_comm]
        rfl
      rw [if_pos rfl, cut, getD_listed]
    · rw [if_neg here, ← targets_eq, described.targets, without _ (by simp [grain, Ne.symm here])]
  · rw [valueAt_bump_down now]
    by_cases here : k = a.grainType.name
    · rw [if_pos here, getD_counted, here]
    · rw [if_neg here, described.counts, count, if_neg (by simp [named, Ne.symm here]),
        Nat.add_zero]
  · have sum := sum_bump_down described.names now
    rw [described.total, split] at sum
    simp only [List.length_append, List.length_cons] at sum ⊢
    omega

end Describes

/-! ## Sequences of calls -/

/-- A call on the registry. -/
inductive Call where
  | record (a : Activation)
  | remove (a : Activation)

namespace Call

def target : Call → Activation
  | record a => a
  | remove a => a

def apply (r : Registry) : Call → Registry
  | record a => r.record a
  | remove a => (r.remove a).1

/-- The recorded activations after the call, oldest first: an id is recorded once, and removing
drops the activation of the id. -/
def registered (recs : List Activation) : Call → List Activation
  | record a => if a.id ∈ recs.map (·.id) then recs else recs ++ [a]
  | remove a => recs.filter (·.id != a.id)

/-- The activations the calls give agree on grain and type name wherever they agree on id. -/
def Coherent (calls : List Call) : Prop :=
  ∀ c ∈ calls, ∀ c' ∈ calls, c.target.id = c'.target.id →
    c.target.grain = c'.target.grain ∧ c.target.grainType.name = c'.target.grainType.name

end Call

theorem Describes.call (described : Describes r recs) (c : Call)
    (coherent : ∀ b ∈ recs, b.id = c.target.id →
      b.grain = c.target.grain ∧ b.grainType.name = c.target.grainType.name) :
    Describes (c.apply r) (c.registered recs) := by
  cases c with
  | record a =>
    by_cases held : a.id ∈ r.ids
    · rw [Call.apply, Call.registered, if_pos (described.ids ▸ held)]
      exact described.record_held held
    · rw [Call.apply, Call.registered, if_neg (described.ids ▸ held)]
      exact described.record_fresh held
  | remove a =>
    by_cases held : a.id ∈ r.ids
    · exact described.remove_held held coherent
    · exact described.remove_fresh held

theorem Describes.calls {all : List Call} (coherent : Call.Coherent all) :
    ∀ (calls : List Call) (r : Registry) (recs : List Activation), (∀ c ∈ calls, c ∈ all) →
      (∀ b ∈ recs, ∃ c ∈ all, c.target = b) → Describes r recs →
      Describes (calls.foldl Call.apply r) (calls.foldl Call.registered recs)
  | [], _, _, _, _, described => described
  | c :: rest, r, recs, among, given, described => by
    have listed : c ∈ all := among c List.mem_cons_self
    -- the activations recorded after the call are still among those the calls give
    have given' : ∀ b ∈ c.registered recs, ∃ c ∈ all, c.target = b := by
      intro b held
      cases c with
      | record a =>
        rw [Call.registered] at held
        split at held
        · exact given b held
        · rcases List.mem_append.mp held with old | new
          · exact given b old
          · exact ⟨.record a, listed, (List.mem_singleton.mp new).symm⟩
      | remove a => exact given b (List.mem_of_mem_filter held)
    refine Describes.calls coherent rest _ _ (fun c' held => among c' (List.mem_cons_of_mem c held))
      given' (described.call c fun b held same => ?_)
    obtain ⟨c', listed', rfl⟩ := given b held
    exact coherent c' listed' c listed same

/-! ## The indexes agree -/

/-- What the indexes of `r` report of the recorded activations `recs`. -/
structure Agrees (r : Registry) (recs : List Activation) : Prop where
  /-- The ids are those of the recorded activations, once each. -/
  ids : r.ids = recs.map (·.id) ∧ r.ids.Nodup
  /-- A grain lists the ids of its recorded activations, oldest first and once each. -/
  targets : ∀ g, r.targets g = (recs.filter (·.grain == g)).map (·.id) ∧ (r.targets g).Nodup
  filled : ∀ p ∈ r.byGrain, p.2 ≠ []
  /-- A type name counts its recorded activations. -/
  counts : ∀ k, (valueAt r.perType k).getD 0 = recs.countP (·.grainType.name == k)
  /-- No type name is listed with a count of zero. -/
  counted : ∀ p ∈ r.perType, p.2 ≠ 0
  /-- The number of activations is the sum of the counts. -/
  total : r.count = (r.perType.map (·.2)).sum
  recordHeld : ∀ a, a.id ∈ r.ids → r.record a = r
  /-- Removing answers whether the id was recorded. -/
  removeAnswers : ∀ a, (r.remove a).2 = true ↔ a.id ∈ r.ids

theorem Describes.agrees (described : Describes r recs) : Agrees r recs where
  ids := ⟨described.ids, described.ids ▸ described.nodup⟩
  targets g := by
    refine ⟨described.targets g, ?_⟩
    rw [described.targets g]
    exact ((List.filter_sublist).map _).nodup described.nodup
  filled p held := by
    have named := (mem_iff_valueAt described.grains).mp held
    exact fun empty => described.filled p.1 (empty ▸ named)
  counts := described.counts
  counted p held := by
    have named := (mem_iff_valueAt described.names).mp held
    exact fun zero => described.counted p.1 (zero ▸ named)
  total := by rw [count, described.total, described.ids, List.length_map]
  recordHeld _ := record_of_mem
  removeAnswers a := by
    by_cases held : a.id ∈ r.ids
    · simp [remove_of_mem held, held]
    · simp [remove_of_fresh held, held]

/-- After every sequence of calls whose activations of one id agree on grain and type name, the
three indexes of the registry agree: they report exactly the activations recorded and not removed
since, a recorded id is recorded only once, and removing answers whether the id was recorded. -/
theorem indexes_agree (calls : List Call) (coherent : Call.Coherent calls) :
    (calls.foldl Call.apply {}).Agrees (calls.foldl Call.registered []) :=
  (Describes.calls coherent calls {} [] (fun _ held => held) (fun _ held => by cases held)
    describes_empty).agrees

/-- The activation of id `id` of the stateless-worker grain `w`. -/
def workerActivation (id : Nat) : Activation :=
  Activation.make ⟨.localhost 1 1, ⟨1, "w", .grain⟩, id⟩ { code := 1, name := "Worker" }
    ⟨"Test", 0, 0⟩ (.ofSecs 60) 0

/-- Two activations of grain `w` are recorded and the first is removed: the calls agree by id,
and the indexes agree after them. -/
theorem worker_indexes_agree :
    Call.Coherent [.record (workerActivation 1), .record (workerActivation 2),
        .remove (workerActivation 1)] ∧
      ([Call.record (workerActivation 1), .record (workerActivation 2),
          .remove (workerActivation 1)].foldl Call.apply {}).Agrees
        ([Call.record (workerActivation 1), .record (workerActivation 2),
          .remove (workerActivation 1)].foldl Call.registered []) := by
  have coherent : Call.Coherent [.record (workerActivation 1), .record (workerActivation 2),
      .remove (workerActivation 1)] := by
    unfold Call.Coherent
    decide
  exact ⟨coherent, indexes_agree _ coherent⟩

end Registry

end ActorSilo
