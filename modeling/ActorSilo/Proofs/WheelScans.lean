import ActorSilo.Proofs.WheelRecords

/-! # Scans of the wheel over the records of a world

The collection task hands the wheel the newest record of every id (`World.newest`) and stores
back the records the scan returns (`World.putNewest`). Where registered slots hold records of
their ids, the newest record of an id is the record in the slot of that id
(`World.find?_newest`), a scan's change to it is the same change to that slot
(`World.newest_putRecord`), and storing back the scan's records stores them in their slots and
changes nothing else (`World.record?_putNewest`). So a scan is a run of changes to the slots of
a world, one record at a time.
-/

namespace ActorSilo

/-- A run of `step` through the elements of a list, from a first state to a last. -/
inductive Walks {σ α : Type} (step : σ → α → σ → Prop) : σ → List α → σ → Prop
  | nil (s : σ) : Walks step s [] s
  | cons {s s₁ s₂ : σ} {x : α} {xs : List α} :
      step s x s₁ → Walks step s₁ xs s₂ → Walks step s (x :: xs) s₂

namespace Walks

variable {σ α : Type} {step : σ → α → σ → Prop}

theorem of_foldlM {ε : Type} {f : σ → α → Except ε σ}
    (each : ∀ s x s', f s x = .ok s' → step s x s') :
    ∀ (xs : List α) (s r : σ), xs.foldlM f s = .ok r → Walks step s xs r
  | [], s, r, folded => by
    cases folded
    exact .nil s
  | x :: rest, s, r, folded => by
    rw [List.foldlM_cons, except_bind_eq_ok] at folded
    obtain ⟨s₁, first, later⟩ := folded
    exact .cons (each s x s₁ first) (of_foldlM each rest s₁ r later)

theorem invariant (I : σ → List α → Prop)
    (preserve : ∀ s x xs s', step s x s' → I s (x :: xs) → I s' xs) :
    ∀ {s : σ} {xs : List α} {r : σ}, Walks step s xs r → I s xs → I r []
  | _, _, _, .nil _, holds => holds
  | _, _, _, .cons first rest, holds => invariant I preserve rest (preserve _ _ _ _ first holds)

theorem map {τ : Type} {step' : τ → α → τ → Prop} (g : σ → τ)
    (each : ∀ s x s', step s x s' → step' (g s) x (g s')) :
    ∀ {s : σ} {xs : List α} {r : σ}, Walks step s xs r → Walks step' (g s) xs (g r)
  | _, _, _, .nil s => .nil (g s)
  | _, _, _, .cons first rest => .cons (each _ _ _ first) (map g each rest)

end Walks

namespace Activation

/-- The record with its ticket claimed: cleared and marked claimed, as a scan or a removal
leaves it. -/
def claim (a : Activation) : Activation := { a with cancelled := true, ticket := none }

@[simp] theorem claim_ticket (a : Activation) : a.claim.ticket = none := rfl

@[simp] theorem claim_id (a : Activation) : a.claim.id = a.id := rfl

@[simp] theorem claim_ageLimit (a : Activation) : a.claim.ageLimit = a.ageLimit := rfl

theorem reticketed_claim (a : Activation) : a.Reticketed a.claim := rfl

end Activation

namespace Collector

variable {c : Collector} {acts : List Activation} {k : Nat} {now : Instant}

/-! ## A scan, visit by visit -/

/-- What the scan of bucket `k` at `now` does when it visits one id of the bucket, on a state
of the wheel, the records and the stale ids found. -/
inductive Visit (k : Nat) (now : Instant) :
    Collector × List Activation × List Nat → Nat → Collector × List Activation × List Nat → Prop
  /-- The id's record does not hold the bucket's unclaimed ticket: nothing changes. -/
  | skip {c acts stale id} :
      (∀ a, find? acts id = some a → a.ticket = some k → a.cancelled = true) →
      Visit k now (c, acts, stale) id (c, acts, stale)
  /-- A stale candidate is claimed and found. -/
  | take {c acts stale id a} : find? acts id = some a → a.ticket = some k → a.cancelled = false →
      a.claim.isCandidate now = true → a.claim.isStale now = true →
      Visit k now (c, acts, stale) id (c, replace acts a.claim, stale ++ [id])
  /-- Any other record is claimed and scheduled again with its age limit. -/
  | keep {c acts stale id a c' b} : find? acts id = some a → a.ticket = some k →
      a.cancelled = false → (a.claim.isCandidate now && a.claim.isStale now) = false →
      c.schedule a.claim a.ageLimit now = .ok (.ok (c', b)) →
      Visit k now (c, acts, stale) id (c', replace acts b, stale)
  /-- A record the wheel refuses to schedule again stays claimed. -/
  | drop {c acts stale id a e} : find? acts id = some a → a.ticket = some k →
      a.cancelled = false → (a.claim.isCandidate now && a.claim.isStale now) = false →
      c.schedule a.claim a.ageLimit now = .ok (.error e) →
      Visit k now (c, acts, stale) id (c, replace acts a.claim, stale)

abbrev Visits (k : Nat) (now : Instant) := Walks (Visit k now)

theorem scanBucket_visits {r : Collector × List Activation × List Nat}
    (scanned : c.scanBucket acts k now = .ok r) :
    Visits k now ({ c.dropBucket k with nextTicket := k + 1 }, acts, []) ((c.bucket? k).getD []) r := by
  unfold scanBucket at scanned
  refine Walks.of_foldlM ?_ _ _ r scanned
  rintro ⟨c, acts, stale⟩ id st₁ visited
  dsimp only at visited
  rcases found : find? acts id with _ | a
  · rw [found] at visited
    cases visited
    exact .skip fun a read => by simp [found] at read
  rw [found] at visited
  dsimp only at visited
  by_cases holds : (a.ticket == some k && !a.cancelled) = true
  · simp only [Bool.and_eq_true, beq_iff_eq, Bool.not_eq_eq_eq_not, Bool.not_true] at holds
    obtain ⟨ticket, unclaimed⟩ := holds
    simp only [ticket, unclaimed, beq_self_eq_true, Bool.not_false, Bool.and_self,
      Bool.not_true, Bool.false_eq_true, if_false] at visited
    split at visited
    · cases visited
      rename_i taken
      simp only [Bool.and_eq_true] at taken
      exact .take found ticket unclaimed taken.1 taken.2
    rename_i kept
    simp only [Bool.not_eq_true] at kept
    simp only [bind, Except.bind, pure, Except.pure] at visited
    -- the claimed record goes back, scheduled again or refused
    rcases placed : c.schedule a.claim a.ageLimit now with _ | (e | ⟨c', b⟩)
    all_goals
      change c.schedule { a with cancelled := true, ticket := none } _ now = _ at placed
      rw [placed] at visited
      cases visited
    · exact .drop found ticket unclaimed kept placed
    · exact .keep found ticket unclaimed kept placed
  · rw [if_pos (by rw [Bool.eq_false_iff.mpr holds]; rfl)] at visited
    cases visited
    refine .skip fun b read ticket => ?_
    rw [found] at read
    cases read
    simp only [Bool.and_eq_true, beq_iff_eq, Bool.not_eq_eq_eq_not, Bool.not_true, not_and,
      Bool.not_eq_false] at holds
    exact holds ticket

theorem Visit.after {st st' : Collector × List Activation × List Nat} {id : Nat}
    (visit : Visit k now st id st') (pre : List Nat) :
    Visit k now (st.1, st.2.1, pre ++ st.2.2) id (st'.1, st'.2.1, pre ++ st'.2.2) := by
  cases visit with
  | skip unmarked => exact .skip unmarked
  | take found ticket unclaimed candidate stale =>
    rw [← List.append_assoc]
    exact .take found ticket unclaimed candidate stale
  | keep found ticket unclaimed kept placed => exact .keep found ticket unclaimed kept placed
  | drop found ticket unclaimed kept placed => exact .drop found ticket unclaimed kept placed

/-- The buckets due at `now` and not yet scanned, in the wheel's order. -/
def dueKeys (c : Collector) (now : Instant) : List Nat :=
  (c.buckets.map (·.1)).filter fun k => c.nextTicket ≤ k && k ≤ c.lastDue now

/-- The scan of due bucket `k`, on the state the scans of the buckets before it reached. -/
def Sweep (now : Instant) (st : Collector × List Activation × List Nat) (k : Nat)
    (r : Collector × List Activation × List Nat) : Prop :=
  Visits k now ({ st.1.dropBucket k with nextTicket := k + 1 }, st.2.1, st.2.2)
    ((st.1.bucket? k).getD []) r

abbrev Sweeps (now : Instant) := Walks (Sweep now)

theorem scanStale_sweeps {r : Collector × List Activation × List Nat}
    (scanned : c.scanStale acts now = .ok r) :
    c.lastDue now < maxTicket ∧
      (c.lastDue now < c.nextTicket ∧ r = (c, acts, []) ∨
        c.nextTicket ≤ c.lastDue now ∧ ∃ st, Sweeps now (c, acts, []) (c.dueKeys now) st ∧
          r = ({ st.1 with nextTicket := c.lastDue now + 1 }, st.2.1, st.2.2)) := by
  unfold scanStale at scanned
  dsimp only [bind, Except.bind, pure, Except.pure] at scanned
  split at scanned
  · cases scanned
  rename_i inRange
  refine ⟨Nat.lt_of_le_of_lt (Nat.div_le_self _ _) (Nat.not_le.mp inRange), ?_⟩
  split at scanned
  · cases scanned
    exact .inl ⟨‹_›, rfl⟩
  rename_i due
  split at scanned
  · cases scanned
  rename_i st folded
  cases scanned
  refine .inr ⟨Nat.not_lt.mp due, st, ?_, rfl⟩
  refine Walks.of_foldlM ?_ _ _ st folded
  rintro ⟨c, acts, stale⟩ k st₁ visited
  dsimp only [bind, Except.bind, pure, Except.pure] at visited
  split at visited
  · cases visited
  rename_i found scanned
  cases visited
  -- the bucket's scan starts from no stale ids; here they follow those found before
  have moved := (scanBucket_visits scanned).map (fun st => (st.1, st.2.1, stale ++ st.2.2))
    (fun _ _ _ visit => visit.after stale)
  dsimp only at moved
  rw [List.append_nil] at moved
  exact moved

end Collector

namespace World

open Collector

variable {γ : Type} {w : World γ}

/-! ## The newest record of each id -/

def collectIds (acc : List Nat) (a : Activation) : List Nat :=
  if acc.contains a.id then acc else acc ++ [a.id]

/-- The ids of a world's records, each once, in the order of their newest records. -/
def newestIds (w : World γ) : List Nat := w.records.toList.reverse.foldl collectIds []

theorem newest_eq (w : World γ) :
    w.newest = w.newestIds.filterMap fun id => (w.slotOf? id).bind w.record? := rfl

theorem collectIds_nodup :
    ∀ (l : List Activation) (acc : List Nat), acc.Nodup → (l.foldl collectIds acc).Nodup
  | [], _, nodup => nodup
  | a :: rest, acc, nodup => by
    rw [List.foldl_cons]
    refine collectIds_nodup rest _ ?_
    unfold collectIds
    split
    · exact nodup
    · rename_i absent
      rw [List.nodup_append]
      exact ⟨nodup, List.nodup_singleton _, fun x inside y same => by
        rw [List.mem_singleton.mp same]
        rintro rfl
        exact absent (by simpa using inside)⟩

theorem mem_collectIds {id : Nat} :
    ∀ (l : List Activation) (acc : List Nat),
      id ∈ l.foldl collectIds acc ↔ id ∈ acc ∨ ∃ a ∈ l, a.id = id
  | [], acc => by simp
  | a :: rest, acc => by
    rw [List.foldl_cons, mem_collectIds rest]
    unfold collectIds
    split
    · rename_i present
      have present : a.id ∈ acc := by simpa using present
      constructor
      · rintro (inside | ⟨b, member, rfl⟩)
        · exact .inl inside
        · exact .inr ⟨b, List.mem_cons_of_mem _ member, rfl⟩
      · rintro (inside | ⟨b, member, rfl⟩)
        · exact .inl inside
        · rcases List.mem_cons.mp member with rfl | member
          · exact .inl present
          · exact .inr ⟨b, member, rfl⟩
    · rw [List.mem_append, List.mem_singleton]
      constructor
      · rintro ((inside | rfl) | ⟨b, member, rfl⟩)
        · exact .inl inside
        · exact .inr ⟨a, List.mem_cons_self, rfl⟩
        · exact .inr ⟨b, List.mem_cons_of_mem _ member, rfl⟩
      · rintro (inside | ⟨b, member, rfl⟩)
        · exact .inl (.inl inside)
        · rcases List.mem_cons.mp member with rfl | member
          · exact .inl (.inr rfl)
          · exact .inr ⟨b, member, rfl⟩

theorem foldl_collectIds_congr :
    ∀ (l l' : List Activation) (acc : List Nat), l.map (·.id) = l'.map (·.id) →
      l.foldl collectIds acc = l'.foldl collectIds acc
  | [], [], _, _ => rfl
  | a :: rest, a' :: rest', acc, same => by
    simp only [List.map_cons, List.cons.injEq] at same
    rw [List.foldl_cons, List.foldl_cons]
    have step : collectIds acc a = collectIds acc a' := by
      unfold collectIds
      rw [same.1]
    rw [step]
    exact foldl_collectIds_congr rest rest' _ same.2
  | [], _ :: _, _, same => by simp at same
  | _ :: _, [], _, same => by simp at same

theorem newestIds_nodup (w : World γ) : w.newestIds.Nodup :=
  collectIds_nodup _ [] List.nodup_nil

theorem mem_newestIds {id : Nat} : id ∈ w.newestIds ↔ ∃ a ∈ w.records.toList, a.id = id := by
  unfold newestIds
  rw [mem_collectIds]
  simp

theorem newestIds_congr {w' : World γ}
    (same : w'.records.toList.map (·.id) = w.records.toList.map (·.id)) :
    w'.newestIds = w.newestIds := by
  unfold newestIds
  refine foldl_collectIds_congr _ _ [] ?_
  rw [List.map_reverse, List.map_reverse, same]

/-! ## Slots of ids -/

theorem slotOf?_go_isSome {id : Nat} :
    ∀ n, (∃ i < n, w.records[i]?.map (·.id) = some id) → (slotOf?.go w id n).isSome
  | 0, ⟨_, below, _⟩ => absurd below (Nat.not_lt_zero _)
  | n + 1, ⟨i, below, named⟩ => by
    unfold slotOf?.go
    split
    · rfl
    · rename_i other
      refine slotOf?_go_isSome n ⟨i, ?_, named⟩
      rcases Nat.lt_succ_iff_lt_or_eq.mp below with earlier | rfl
      · exact earlier
      · simp [named] at other

theorem SlotsHold.exists_of_slotOf? (holds : w.SlotsHold) {id slot : Nat}
    (slotted : w.slotOf? id = some slot) : ∃ r, w.record? slot = some r ∧ r.id = id := by
  unfold slotOf? at slotted
  split at slotted
  · rename_i registered _ registered
    cases slotted
    obtain ⟨r, found, named⟩ := holds _ (List.mem_of_find?_eq_some registered)
    have key := List.find?_some registered
    simp only [beq_iff_eq] at key
    exact ⟨r, found, named.trans key⟩
  · exact slotOf?_go_found _ slotted

theorem slotOf?_isSome {a : Activation}
    (member : a ∈ w.records.toList) : (w.slotOf? a.id).isSome := by
  unfold slotOf?
  split
  · rfl
  · obtain ⟨i, found⟩ := Array.mem_iff_getElem?.mp (by simpa using member)
    have below : i < w.records.size := (Array.getElem?_eq_some_iff.mp found).1
    refine slotOf?_go_isSome _ ⟨i, below, ?_⟩
    rw [found]
    rfl

theorem SlotsHold.slotOf?_eq_none (holds : w.SlotsHold) {id : Nat}
    (absent : ∀ a ∈ w.records.toList, a.id ≠ id) : w.slotOf? id = none := by
  rcases slotted : w.slotOf? id with _ | slot
  · rfl
  · obtain ⟨r, found, named⟩ := holds.exists_of_slotOf? slotted
    exact absurd named (absent r (by simpa using Array.mem_of_getElem? found))

theorem find?_filterMap_keyed {e : Nat → Option Activation} (keyed : ∀ k r, e k = some r → r.id = k)
    (id : Nat) : ∀ {L : List Nat}, L.Nodup → find? (L.filterMap e) id = if id ∈ L then e id else none
  | [], _ => by simp [find?]
  | k :: rest, nodup => by
    obtain ⟨fresh, nodup⟩ := List.nodup_cons.mp nodup
    have later := find?_filterMap_keyed keyed id nodup
    rcases read : e k with _ | r
    · rw [List.filterMap_cons_none read, later]
      by_cases here : id = k
      · subst here
        simp [fresh, read]
      · simp [here]
    · rw [List.filterMap_cons_some read]
      have named := keyed k r read
      unfold find? at later ⊢
      rw [List.find?_cons]
      by_cases here : k = id
      · subst here
        simp [named, read]
      · have differs : (r.id == id) = false := by simpa [named] using here
        rw [differs, later]
        simp [Ne.symm here]

/-- The newest record of an id is the record in the slot of that id. -/
theorem find?_newest (holds : w.SlotsHold) (id : Nat) :
    find? w.newest id = (w.slotOf? id).bind w.record? := by
  have keyed : ∀ k r, (w.slotOf? k).bind w.record? = some r → r.id = k := by
    intro k r read
    obtain ⟨slot, slotted, found⟩ := Option.bind_eq_some_iff.mp read
    exact holds.id_of_slotOf? slotted found
  rw [newest_eq, find?_filterMap_keyed keyed id (newestIds_nodup w)]
  split
  · rfl
  · rename_i absent
    rw [holds.slotOf?_eq_none fun a member same => absent (mem_newestIds.mpr ⟨a, member, same⟩)]
    rfl

theorem ids_filterMap_keyed_nodup {e : Nat → Option Activation}
    (keyed : ∀ k r, e k = some r → r.id = k) :
    ∀ {L : List Nat}, L.Nodup → ((L.filterMap e).map (·.id)).Nodup
  | [], _ => List.nodup_nil
  | k :: rest, nodup => by
    obtain ⟨fresh, nodup⟩ := List.nodup_cons.mp nodup
    have later := ids_filterMap_keyed_nodup keyed nodup
    rcases read : e k with _ | r
    · rw [List.filterMap_cons_none read]
      exact later
    · rw [List.filterMap_cons_some read, List.map_cons, List.nodup_cons]
      refine ⟨?_, later⟩
      rw [keyed k r read]
      intro inside
      obtain ⟨x, member, named⟩ := List.mem_map.mp inside
      obtain ⟨k', member', read'⟩ := List.mem_filterMap.mp member
      exact fresh ((keyed k' x read').symm.trans named ▸ member')

theorem newest_ids_nodup (holds : w.SlotsHold) : (w.newest.map (·.id)).Nodup := by
  rw [newest_eq]
  refine ids_filterMap_keyed_nodup (fun k r read => ?_) (newestIds_nodup w)
  obtain ⟨slot, slotted, found⟩ := Option.bind_eq_some_iff.mp read
  exact holds.id_of_slotOf? slotted found

theorem mem_newest_iff (holds : w.SlotsHold) {a : Activation} :
    a ∈ w.newest ↔ ∃ slot, w.slotOf? a.id = some slot ∧ w.record? slot = some a := by
  constructor
  · intro member
    obtain ⟨id, slot, slotted, found⟩ := mem_newest member
    have named := holds.id_of_slotOf? slotted found
    exact ⟨slot, named ▸ slotted, found⟩
  · rintro ⟨slot, slotted, found⟩
    have read := find?_newest holds a.id
    rw [slotted] at read
    change find? w.newest a.id = w.record? slot at read
    rw [found] at read
    exact (find?_mem read).1

/-! ## Scans change the slots of ids -/

section Slots

variable {slot : Nat} {a b : Activation}

theorem Related.found_left {R : Activation → Activation → Prop} {w' : World γ} (related : Related R w w')
    {b : Activation} (found : w'.record? slot = some b) : ∃ a, w.record? slot = some a ∧ R a b := by
  have rel := related slot
  rw [found] at rel
  generalize w.record? slot = o at rel
  cases rel with
  | some moved => exact ⟨_, rfl, moved⟩

theorem slotOf?_putRecord (found : w.record? slot = some a) (moved : a.Reticketed b) :
    (w.putRecord slot b).slotOf? = w.slotOf? :=
  slotOf?_congr ((Related.refl Activation.Advances.refl w).putRecord slot found moved.advances) rfl
    (by simp [putRecord])

theorem SlotsHold.putRecord (holds : w.SlotsHold) (found : w.record? slot = some a)
    (moved : a.Reticketed b) : (w.putRecord slot b).SlotsHold :=
  holds.advance (Advances.of_related
    ((Related.refl Activation.Advances.refl w).putRecord slot found moved.advances)) fun _ member => member

/-- Moving the ticket of the newest record of an id moves it among the newest records. -/
theorem newest_putRecord (holds : w.SlotsHold) (slotted : w.slotOf? a.id = some slot)
    (found : w.record? slot = some a) (moved : a.Reticketed b) :
    (w.putRecord slot b).newest = replace w.newest b := by
  have named : b.id = a.id := moved.state_mailbox.2.2
  have ids : (w.putRecord slot b).newestIds = w.newestIds := by
    refine newestIds_congr ?_
    have inside : slot < w.records.size := (Array.getElem?_eq_some_iff.mp found).1
    refine List.ext_getElem? fun n => ?_
    simp only [putRecord, Array.toList_setIfInBounds, List.getElem?_map, List.getElem?_set,
      Array.length_toList, inside, if_true, Array.getElem?_toList]
    split
    · rename_i here
      subst here
      simp [named, show w.records[slot]? = some a from found]
    · rfl
  rw [newest_eq, newest_eq, ids, slotOf?_putRecord found moved]
  unfold replace
  rw [List.map_filterMap]
  refine List.filterMap_congr fun k _ => ?_
  rcases slotted' : w.slotOf? k with _ | s
  · rfl
  change (w.putRecord slot b).record? s = (w.record? s).map _
  by_cases here : s = slot
  · subst here
    rw [record?_putRecord_of_found found, found]
    simp [named]
  · rw [record?_putRecord_ne w b (Ne.symm here)]
    rcases read : w.record? s with _ | r
    · rfl
    · -- a record in another slot has another id than the one moved
      have key := holds.id_of_slotOf? slotted' read
      have other : r.id ≠ b.id := by
        rw [named, key]
        rintro rfl
        rw [slotted] at slotted'
        exact here (Option.some.inj slotted').symm
      simp [other]

/-- Storing back records, each read from the slot of its id with only its ticket moved, stores
each in that slot and leaves the other slots alone. -/
theorem record?_putNewest :
    ∀ {w : World γ} {l : List Activation}, w.SlotsHold → (l.map (·.id)).Nodup →
      (∀ x ∈ l, ∃ s y, w.slotOf? x.id = some s ∧ w.record? s = some y ∧ y.Reticketed x) →
      ∀ j, (w.putNewest l).record? j = (l.find? fun x => w.slotOf? x.id == some j).or (w.record? j)
  | w, [], _, _, _, j => rfl
  | w, x :: rest, holds, nodup, read, j => by
    obtain ⟨s, y, slotted, found, moved⟩ := read x (.head _)
    obtain ⟨fresh, nodup⟩ := List.nodup_cons.mp nodup
    have step : w.putNewest (x :: rest) = (w.putRecord s x).putNewest rest := by
      unfold putNewest
      rw [List.foldl_cons, slotted]
    have slots := slotOf?_putRecord found moved
    -- the other records go to other slots: a slot holds records of one id
    have apart : ∀ x' ∈ rest, w.slotOf? x'.id ≠ some s := by
      intro x' member same
      obtain ⟨s', y', slotted', found', moved'⟩ := read x' (.tail _ member)
      rw [same] at slotted'
      cases slotted'
      rw [found] at found'
      cases found'
      have same : x'.id = x.id := moved'.state_mailbox.2.2.trans moved.state_mailbox.2.2.symm
      exact fresh (List.mem_map.mpr ⟨x', member, same⟩)
    have read' : ∀ x' ∈ rest, ∃ s' y', (w.putRecord s x).slotOf? x'.id = some s' ∧
        (w.putRecord s x).record? s' = some y' ∧ y'.Reticketed x' := by
      intro x' member
      obtain ⟨s', y', slotted', found', moved'⟩ := read x' (.tail _ member)
      have other : s ≠ s' := fun same => apart x' member (same ▸ slotted')
      exact ⟨s', y', slots ▸ slotted', by rw [record?_putRecord_ne w x other]; exact found', moved'⟩
    rw [step, record?_putNewest (holds.putRecord found moved) nodup read' j, slots, List.find?_cons]
    by_cases here : s = j
    · subst here
      have none : rest.find? (fun x' => w.slotOf? x'.id == some s) = none :=
        List.find?_eq_none.mpr fun x' member => by simpa using apart x' member
      have first : (w.slotOf? x.id == some s) = true := by simp [slotted]
      rw [first, none, Option.none_or, record?_putRecord_of_found found]
      rfl
    · have first : (w.slotOf? x.id == some j) = false := by simpa [slotted] using here
      rw [first, record?_putRecord_ne w x here]

theorem putNewest_newest (holds : w.SlotsHold) {u : World γ}
    (related : Related Activation.Reticketed w u) (slots : u.registeredSlots = w.registeredSlots)
    (size : u.records.size = w.records.size)
    (changed : ∀ j, u.record? j ≠ w.record? j → ∃ id, w.slotOf? id = some j) :
    (w.putNewest u.newest).records = u.records := by
  have sameSlots : u.slotOf? = w.slotOf? :=
    slotOf?_congr (related.mono fun moved => moved.advances) slots size
  have holdsU : u.SlotsHold :=
    holds.advance (Advances.of_related (related.mono fun moved => moved.advances))
      fun p member => slots ▸ member
  -- each newest record of `u` is read from the slot of its id, with only its ticket moved
  have read : ∀ x ∈ u.newest, ∃ s y, w.slotOf? x.id = some s ∧ w.record? s = some y ∧
      y.Reticketed x := by
    intro x member
    obtain ⟨s, slotted, found⟩ := (mem_newest_iff holdsU).mp member
    obtain ⟨y, found', moved⟩ := related.found_left found
    exact ⟨s, y, sameSlots ▸ slotted, found', moved⟩
  refine Array.ext_getElem? fun j => ?_
  change (w.putNewest u.newest).record? j = u.record? j
  rw [record?_putNewest holds (newest_ids_nodup holdsU) read j]
  rcases first : u.newest.find? (fun x => w.slotOf? x.id == some j) with _ | x
  · -- no newest record of `u` is in slot `j`, so `j` holds no moved ticket
    rw [first, Option.none_or]
    by_contra differs
    obtain ⟨id, slotted⟩ := changed j (Ne.symm differs)
    have slottedU : u.slotOf? id = some j := by rw [sameSlots]; exact slotted
    obtain ⟨r, found, key⟩ := holdsU.exists_of_slotOf? slottedU
    have inside := (mem_newest_iff holdsU).mpr ⟨j, by rw [key]; exact slottedU, found⟩
    have := List.find?_eq_none.mp first r inside
    simp [key, slotted] at this
  · have inside := List.mem_of_find?_eq_some first
    have key := List.find?_some first
    obtain ⟨s, slotted, found⟩ := (mem_newest_iff holdsU).mp inside
    simp only [beq_iff_eq] at key
    rw [sameSlots, key] at slotted
    cases slotted
    rw [first, Option.some_or, found]

end Slots

end World

end ActorSilo
