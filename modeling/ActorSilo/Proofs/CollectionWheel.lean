import Mathlib.Data.List.Nodup
import ActorSilo.Activation.Collector

/-! # The collection wheel keeps its buckets and the records' tickets in step

The entries of the buckets, each id with the ticket of its bucket, are a permutation of the
tickets the records hold (`Holds`), and every bucket comes at or after the first one not yet
scanned. A scan takes a due bucket out before it visits its ids, so `Holds c acts pending` counts
the ids not yet visited on the side of the buckets. Taking a record out of a bucket
(`Collector.Holds.removeFrom`) keeps the two sides in step; whole runs are taken up in
`ActorSilo.Proofs.WheelConsistency`.
-/

namespace ActorSilo

theorem except_bind_eq_ok {ε α β : Type} {x : Except ε α} {f : α → Except ε β} {b : β} :
    x >>= f = .ok b ↔ ∃ a, x = .ok a ∧ f a = .ok b := by
  cases x <;> simp [bind, Except.bind]

theorem foldlM_invariant {ε α β : Type} {f : β → α → Except ε β} (I : β → List α → Prop)
    (step : ∀ b x rest b', I b (x :: rest) → f b x = .ok b' → I b' rest) :
    ∀ (l : List α) (b r : β), I b l → l.foldlM f b = .ok r → I r []
  | [], b, r, holds, folded => by
    cases folded
    exact holds
  | x :: rest, b, r, holds, folded => by
    rw [List.foldlM_cons, except_bind_eq_ok] at folded
    obtain ⟨b', first, later⟩ := folded
    exact foldlM_invariant I step rest b' r (step b x rest b' holds first) later

theorem foldl_invariant {α β : Type} {f : β → α → β} (I : β → Prop) (step : ∀ b x, I b → I (f b x)) :
    ∀ (l : List α) (b : β), I b → I (l.foldl f b)
  | [], _, holds => holds
  | x :: rest, b, holds => foldl_invariant I step rest (f b x) (step b x holds)

namespace Collector

/-! ## Buckets and their entries -/

/-- The entries of a list of buckets: each id with the ticket of its bucket. -/
def flat (bs : List (Nat × List Nat)) : List (Nat × Nat) := bs.flatMap fun b => b.2.map (b.1, ·)

/-- The ids of bucket `t` in a list of buckets. -/
def idsAt (bs : List (Nat × List Nat)) (t : Nat) : List Nat :=
  ((bs.find? (·.1 == t)).map (·.2)).getD []

@[simp] theorem flat_nil : flat [] = [] := rfl

@[simp] theorem flat_cons (k : Nat) (v : List Nat) (rest : List (Nat × List Nat)) :
    flat ((k, v) :: rest) = v.map (k, ·) ++ flat rest := rfl

abbrev Ascending (bs : List (Nat × List Nat)) : Prop := bs.Pairwise fun x y => x.1 < y.1

section Ascending

variable {k t : Nat} {v ids : List Nat} {rest : List (Nat × List Nat)}

theorem Ascending.later (sorted : Ascending ((k, v) :: rest)) : ∀ x ∈ rest, k < x.1 :=
  (List.pairwise_cons.mp sorted).1

theorem Ascending.tail (sorted : Ascending ((k, v) :: rest)) : Ascending rest :=
  (List.pairwise_cons.mp sorted).2

theorem filter_later (sorted : Ascending ((k, v) :: rest)) (before : t ≤ k) :
    rest.filter (·.1 != t) = rest := by
  rw [List.filter_eq_self]
  intro x member
  have := sorted.later x member
  simp only [bne_iff_ne, ne_eq]
  omega

theorem flat_filter (sorted : Ascending rest) :
    (flat (rest.filter (·.1 != t)) ++ (idsAt rest t).map (t, ·)).Perm (flat rest) := by
  induction rest with
  | nil => simp [idsAt]
  | cons b rest ih =>
    obtain ⟨k, v⟩ := b
    by_cases here : k = t
    · subst here
      have found : idsAt ((k, v) :: rest) k = v := by simp [idsAt]
      rw [List.filter_cons_of_neg (by simp), filter_later sorted (Nat.le_refl k), found, flat_cons]
      exact List.perm_append_comm
    · have rest_ids : idsAt ((k, v) :: rest) t = idsAt rest t := by
        simp [idsAt, here]
      rw [List.filter_cons_of_pos (by simpa using here), rest_ids, flat_cons, flat_cons,
        List.append_assoc]
      exact (ih sorted.tail).append_left _

theorem flat_insert (sorted : Ascending rest) :
    (flat (setBucket.insert t ids rest)).Perm (flat (rest.filter (·.1 != t)) ++ ids.map (t, ·)) := by
  induction rest with
  | nil => simp [setBucket.insert]
  | cons b rest ih =>
    obtain ⟨k, v⟩ := b
    simp only [setBucket.insert]
    split
    · -- the bucket is there: its ids are replaced
      rename_i same
      have same : k = t := by simpa using same
      subst same
      rw [List.filter_cons_of_neg (by simp), filter_later sorted (Nat.le_refl k), flat_cons]
      exact List.perm_append_comm
    · rename_i other
      have other : k ≠ t := by simpa using other
      rw [List.filter_cons_of_pos (by simpa using other), flat_cons]
      split
      · -- a new bucket goes before the first later one
        rename_i before
        rw [filter_later sorted (Nat.le_of_lt before), flat_cons, flat_cons]
        exact List.perm_append_comm
      · rw [flat_cons, List.append_assoc]
        exact (ih sorted.tail).append_left _

theorem mem_insert {x : Nat × List Nat} (member : x ∈ setBucket.insert t ids rest) :
    x.1 = t ∨ x ∈ rest := by
  induction rest with
  | nil =>
    simp only [setBucket.insert, List.mem_singleton] at member
    exact .inl (by rw [member])
  | cons b rest ih =>
    obtain ⟨k, v⟩ := b
    simp only [setBucket.insert] at member
    split at member
    · rcases List.mem_cons.mp member with first | later
      · exact .inl (by rw [first])
      · exact .inr (List.mem_cons_of_mem _ later)
    · split at member
      · rcases List.mem_cons.mp member with first | later
        · exact .inl (by rw [first])
        · exact .inr later
      · rcases List.mem_cons.mp member with first | later
        · exact .inr (first ▸ List.mem_cons_self)
        · exact (ih later).imp_right (List.mem_cons_of_mem _)

theorem insert_ascending (sorted : Ascending rest) : Ascending (setBucket.insert t ids rest) := by
  induction rest with
  | nil => simp [setBucket.insert]
  | cons b rest ih =>
    obtain ⟨k, v⟩ := b
    simp only [setBucket.insert]
    split
    · rename_i same
      have same : k = t := by simpa using same
      subst same
      exact List.pairwise_cons.mpr ⟨sorted.later, sorted.tail⟩
    · split
      · rename_i before
        refine List.pairwise_cons.mpr ⟨?_, sorted⟩
        intro x member
        rcases List.mem_cons.mp member with first | later
        · rw [first]
          exact before
        · exact Nat.lt_trans before (sorted.later x later)
      · rename_i other after
        have other : k ≠ t := by simpa using other
        refine List.pairwise_cons.mpr ⟨?_, ih sorted.tail⟩
        intro x member
        rcases mem_insert member with new | old
        · omega
        · exact sorted.later x old

theorem mem_flat_iff (sorted : Ascending rest) {id : Nat} : (t, id) ∈ flat rest ↔ id ∈ idsAt rest t := by
  have split := (flat_filter (t := t) sorted).mem_iff (a := (t, id))
  rw [← split, List.mem_append]
  have elsewhere : (t, id) ∉ flat (rest.filter (·.1 != t)) := by
    simp only [flat, List.mem_flatMap, List.mem_filter, List.mem_map, Prod.mk.injEq, bne_iff_ne]
    rintro ⟨b, ⟨-, other⟩, _, _, same, -⟩
    exact other same
  simp [elsewhere]

end Ascending

/-! ## The entries of the wheel -/

/-- The entries of the wheel: each id a bucket holds, with the ticket of the bucket. -/
def entries (c : Collector) : List (Nat × Nat) := flat c.buckets

theorem foldl_length (bs : List (Nat × List Nat)) (n : Nat) :
    bs.foldl (fun n b => n + b.2.length) n = n + (flat bs).length := by
  induction bs generalizing n with
  | nil => rfl
  | cons b rest ih =>
    obtain ⟨k, v⟩ := b
    rw [List.foldl_cons, ih, flat_cons, List.length_append, List.length_map, Nat.add_assoc]

theorem count_eq_length (c : Collector) : c.count = c.entries.length := by
  rw [count, foldl_length, Nat.zero_add, entries]

variable {c : Collector} {t : Nat}

/-- Replacing the ids of bucket `t` trades the entries of its old ids for those of the new. -/
theorem entries_setBucket (sorted : Ascending c.buckets) (ids : List Nat) :
    ((c.setBucket t ids).entries ++ ((c.bucket? t).getD []).map (t, ·)).Perm
      (c.entries ++ ids.map (t, ·)) := by
  have kept : (flat (setBucket.insert t ids c.buckets)).Perm _ := flat_insert sorted
  have dropped := flat_filter (t := t) sorted
  calc ((c.setBucket t ids).entries ++ ((c.bucket? t).getD []).map (t, ·))
      _ = flat (setBucket.insert t ids c.buckets) ++ (idsAt c.buckets t).map (t, ·) := rfl
      List.Perm _ ((flat (c.buckets.filter (·.1 != t)) ++ ids.map (t, ·)) ++
          (idsAt c.buckets t).map (t, ·)) :=
        kept.append_right _
      List.Perm _ ((flat (c.buckets.filter (·.1 != t)) ++ (idsAt c.buckets t).map (t, ·)) ++
          ids.map (t, ·)) :=
        List.perm_iff_count.mpr fun x => by simp only [List.count_append]; omega
      List.Perm _ (c.entries ++ ids.map (t, ·)) := dropped.append_right _

theorem entries_dropBucket (sorted : Ascending c.buckets) :
    ((c.dropBucket t).entries ++ ((c.bucket? t).getD []).map (t, ·)).Perm c.entries :=
  flat_filter sorted

theorem setBucket_ascending (sorted : Ascending c.buckets) (ids : List Nat) :
    Ascending (c.setBucket t ids).buckets :=
  insert_ascending sorted

theorem dropBucket_ascending (sorted : Ascending c.buckets) : Ascending (c.dropBucket t).buckets :=
  sorted.filter _

theorem mem_setBucket {ids : List Nat} {x : Nat × List Nat} (member : x ∈ (c.setBucket t ids).buckets) :
    x.1 = t ∨ x ∈ c.buckets :=
  mem_insert member

theorem bucket?_mem {ids : List Nat} (found : c.bucket? t = some ids) : (t, ids) ∈ c.buckets := by
  unfold bucket? at found
  rcases first : c.buckets.find? (·.1 == t) with _ | b
  · rw [first] at found
    cases found
  · rw [first] at found
    cases found
    have key : b.1 = t := by simpa using List.find?_some first
    rw [← key]
    exact List.mem_of_find?_eq_some first

theorem mem_entries_iff (sorted : Ascending c.buckets) {id : Nat} :
    (t, id) ∈ c.entries ↔ id ∈ (c.bucket? t).getD [] :=
  mem_flat_iff sorted

theorem mem_entries {x : Nat × Nat} (member : x ∈ c.entries) : ∃ b ∈ c.buckets, b.1 = x.1 := by
  simp only [entries, flat, List.mem_flatMap, List.mem_map] at member
  obtain ⟨b, inside, _, _, rfl⟩ := member
  exact ⟨b, inside, rfl⟩

/-! ## The tickets the records hold -/

/-- The tickets the records hold, each with the id of its record. -/
def held (acts : List Activation) : List (Nat × Nat) := acts.filterMap fun a => a.ticket.map (·, a.id)

/-- The ticket a record holds, with its id, as a list of at most one entry. -/
def holding (a : Activation) : List (Nat × Nat) := (a.ticket.map (·, a.id)).toList

@[simp] theorem held_nil : held [] = [] := rfl

@[simp] theorem held_append (l₁ l₂ : List Activation) : held (l₁ ++ l₂) = held l₁ ++ held l₂ :=
  List.filterMap_append

@[simp] theorem held_cons (a : Activation) (rest : List Activation) :
    held (a :: rest) = holding a ++ held rest := by
  cases ticket : a.ticket <;> simp [held, holding, ticket]

theorem mem_held {x : Nat × Nat} {acts : List Activation} :
    x ∈ held acts ↔ ∃ a ∈ acts, a.ticket = some x.1 ∧ a.id = x.2 := by
  simp only [held, List.mem_filterMap, Option.map_eq_some_iff]
  constructor
  · rintro ⟨a, member, k, ticket, rfl⟩
    exact ⟨a, member, ticket, rfl⟩
  · rintro ⟨a, member, ticket, named⟩
    exact ⟨a, member, x.1, ticket, by rw [named]⟩

theorem length_held (acts : List Activation) :
    (held acts).length = (acts.filter (·.ticket.isSome)).length := by
  induction acts with
  | nil => rfl
  | cons a rest ih =>
    rw [held_cons, List.length_append, ih, List.filter_cons]
    cases ticket : a.ticket <;> simp [holding, ticket, Nat.add_comm]

theorem replace_ids (acts : List Activation) (b : Activation) :
    (replace acts b).map (·.id) = acts.map (·.id) := by
  simp only [replace, List.map_map]
  refine List.map_congr_left fun x _ => ?_
  by_cases same : x.id = b.id <;> simp [same]

theorem mem_replace {acts : List Activation} {b x : Activation} (member : x ∈ replace acts b) :
    x = b ∨ x ∈ acts := by
  simp only [replace, List.mem_map] at member
  obtain ⟨y, inside, rfl⟩ := member
  by_cases same : y.id = b.id <;> simp [same, inside]

section Replace

variable {acts : List Activation} {a b : Activation}

theorem replace_eq_of_mem (ids : (acts.map (·.id)).Nodup) (member : a ∈ acts) (same : b.id = a.id) :
    ∃ l₁ l₂, acts = l₁ ++ a :: l₂ ∧ replace acts b = l₁ ++ b :: l₂ := by
  obtain ⟨l₁, l₂, rfl⟩ := List.mem_iff_append.mp member
  refine ⟨l₁, l₂, rfl, ?_⟩
  have alone : a.id ∉ l₁.map (·.id) ++ l₂.map (·.id) := by
    rw [List.map_append, List.map_cons, List.nodup_middle] at ids
    exact (List.nodup_cons.mp ids).1
  have keep : ∀ l : List Activation, (∀ x ∈ l, x.id ∈ l.map (·.id)) → a.id ∉ l.map (·.id) →
      l.map (fun x => if (x.id == a.id) = true then b else x) = l := by
    intro l mem absent
    refine (List.map_congr_left fun x inside => ?_).trans (List.map_id l)
    have differs : x.id ≠ a.id := fun eq => absent (eq ▸ mem x inside)
    simp [differs]
  simp only [replace, List.map_append, List.map_cons, same, beq_self_eq_true, if_true]
  rw [keep l₁ (fun x inside => List.mem_map_of_mem inside) (fun h => alone (List.mem_append_left _ h)),
    keep l₂ (fun x inside => List.mem_map_of_mem inside) (fun h => alone (List.mem_append_right _ h))]

theorem held_replace (ids : (acts.map (·.id)).Nodup) (member : a ∈ acts) (same : b.id = a.id) :
    (held (replace acts b) ++ holding a).Perm (held acts ++ holding b) := by
  obtain ⟨l₁, l₂, whole, replaced⟩ := replace_eq_of_mem ids member same
  rw [replaced, whole]
  simp only [held_append, held_cons]
  exact List.perm_iff_count.mpr fun x => by simp only [List.count_append]; omega

theorem replace_self (ids : (acts.map (·.id)).Nodup) (member : a ∈ acts) : replace acts a = acts := by
  obtain ⟨l₁, l₂, whole, replaced⟩ := replace_eq_of_mem ids member rfl
  rw [replaced, whole]

theorem eq_of_id_eq (ids : (acts.map (·.id)).Nodup) (member : a ∈ acts) (other : b ∈ acts)
    (same : a.id = b.id) : a = b :=
  List.inj_on_of_nodup_map ids member other same

end Replace

theorem find?_mem {acts : List Activation} {id : Nat} {a : Activation} (found : find? acts id = some a) :
    a ∈ acts ∧ a.id = id :=
  ⟨List.mem_of_find?_eq_some found, by simpa using List.find?_some found⟩

/-! ## The wheel and the records in step -/

/-- The wheel `c` and the records `acts` agree, while the entries `pending` are out of the
wheel and not yet visited by a scan: the records have distinct ids, the buckets are in
ascending ticket order, the entries of the buckets and the pending ones are a permutation of
the tickets the records hold, a record that holds a ticket is not claimed, and no bucket
comes before the first one not yet scanned. -/
structure Holds (c : Collector) (acts : List Activation) (pending : List (Nat × Nat)) : Prop where
  ids : (acts.map (·.id)).Nodup
  sorted : Ascending c.buckets
  perm : (c.entries ++ pending).Perm (held acts)
  unclaimed : ∀ a ∈ acts, a.ticket.isSome → a.cancelled = false
  future : ∀ b ∈ c.buckets, c.nextTicket ≤ b.1

/-- What an operation keeps of the wheel: its quantum, its epoch and its first bucket not yet
scanned. -/
structure Frame (c c' : Collector) : Prop where
  quantum : c'.quantum = c.quantum
  epoch : c'.epoch = c.epoch
  nextTicket : c'.nextTicket = c.nextTicket

theorem Frame.refl (c : Collector) : Frame c c := ⟨rfl, rfl, rfl⟩

theorem Frame.trans {c₁ c₂ c₃ : Collector} (first : Frame c₁ c₂) (second : Frame c₂ c₃) :
    Frame c₁ c₃ :=
  ⟨second.quantum.trans first.quantum, second.epoch.trans first.epoch,
    second.nextTicket.trans first.nextTicket⟩

theorem frame_setBucket (c : Collector) (t : Nat) (ids : List Nat) : Frame c (c.setBucket t ids) :=
  ⟨rfl, rfl, rfl⟩

theorem frame_removeFrom (c : Collector) (a : Activation) (t : Nat) : Frame c (c.removeFrom a t).1 := by
  unfold removeFrom
  split
  · split
    · exact frame_setBucket c t _
    · exact .refl c
  · exact .refl c

theorem frame_add (c : Collector) (a : Activation) (t : Nat) : Frame c (c.add a t).1 :=
  frame_setBucket c t _

variable {acts : List Activation} {pending : List (Nat × Nat)} {a : Activation}

namespace Holds

theorem held_entry (holds : Holds c acts pending) (member : a ∈ acts) {k : Nat}
    (ticket : a.ticket = some k) : (k, a.id) ∈ c.entries ++ pending :=
  holds.perm.mem_iff.mpr (mem_held.mpr ⟨a, member, ticket, rfl⟩)

theorem ticket_future (holds : Holds c acts []) (member : a ∈ acts) {k : Nat}
    (ticket : a.ticket = some k) : c.nextTicket ≤ k := by
  have entry := holds.held_entry member ticket
  rw [List.append_nil] at entry
  obtain ⟨b, inside, key⟩ := mem_entries entry
  have bound := holds.future b inside
  rw [key] at bound
  exact bound

theorem touch (holds : Holds c acts pending) (member : a ∈ acts) {b : Activation}
    (same : b.id = a.id) (ticket : b.ticket = a.ticket) (claim : b.cancelled = a.cancelled) :
    Holds c (replace acts b) pending where
  ids := by rw [replace_ids]; exact holds.ids
  sorted := holds.sorted
  perm := by
    have records := held_replace holds.ids member same
    have holding_same : holding b = holding a := by simp [holding, same, ticket]
    rw [holding_same] at records
    exact holds.perm.trans ((List.perm_append_right_iff _).mp records).symm
  unclaimed x inside scheduled := by
    rcases mem_replace inside with rfl | old
    · rw [claim]
      exact holds.unclaimed a member (ticket ▸ scheduled)
    · exact holds.unclaimed x old scheduled
  future := holds.future

/-- Taking a record out of a bucket takes its entry and its ticket away together. -/
theorem removeFrom (holds : Holds c acts pending) (member : a ∈ acts) (t : Nat) :
    Holds (c.removeFrom a t).1 (replace acts (c.removeFrom a t).2.1) pending := by
  have unchanged : Holds c (replace acts a) pending := by
    rw [replace_self holds.ids member]
    exact holds
  unfold Collector.removeFrom
  rcases found : c.bucket? t with _ | ids
  · exact unchanged
  dsimp only
  split
  · rename_i claims
    simp only [Bool.and_eq_true, beq_iff_eq, Bool.not_eq_eq_eq_not, Bool.not_true,
      List.contains_iff_mem] at claims
    obtain ⟨⟨ticket, -⟩, inside⟩ := claims
    -- the bucket loses the entry of the record, and the record its ticket
    have bucket := entries_setBucket (t := t) holds.sorted (ids.erase a.id)
    rw [found, Option.getD_some] at bucket
    have erased : (ids.map (t, ·)).Perm ([(t, a.id)] ++ (ids.erase a.id).map (t, ·)) :=
      (List.perm_cons_erase inside).map (t, ·)
    have before : holding a = [(t, a.id)] := by simp [holding, ticket]
    have after : holding { a with cancelled := true, ticket := none } = [] := rfl
    have records := held_replace holds.ids member (b := { a with cancelled := true, ticket := none }) rfl
    rw [before, after, List.append_nil] at records
    constructor
    · rw [replace_ids]
      exact holds.ids
    · exact setBucket_ascending holds.sorted _
    · refine List.perm_iff_count.mpr fun x => ?_
      have h₁ := bucket.count_eq x
      have h₂ := erased.count_eq x
      have h₃ := holds.perm.count_eq x
      have h₄ := records.count_eq x
      simp only [List.count_append] at h₁ h₂ h₃ h₄ ⊢
      omega
    · intro x inside scheduled
      rcases mem_replace inside with rfl | old
      · simp at scheduled
      · exact holds.unclaimed x old scheduled
    · intro b inside
      rcases mem_setBucket inside with key | old
      · rw [key]
        exact holds.future _ (bucket?_mem found)
      · exact holds.future b old
  · exact unchanged

end Holds

end Collector

end ActorSilo
