import ActorSilo.Proofs.KeyedLists

/-! # The first registration of a grain wins

Single-activation registration keeps each grain's list of addresses to at most one, its entry
(`Directory.address?`): a registration stores its address when the grain has none and otherwise
answers with the entry, as accepted or as a duplicate, leaving the directory alone; unregistering
removes the entry only for its own activation id. `Directory.Single` is kept by both.

**Main result:** `Directory.first_registration_wins`.
-/

namespace ActorSilo

namespace Directory

variable {d : Directory} {a e : ActivationAddress} {g k : GrainId}

/-- The entry of a grain: the first address stored for it. -/
def address? (d : Directory) (g : GrainId) : Option ActivationAddress := (d.fullLookup g).head?

theorem lookup?_eq_valueAt (d : Directory) (g : GrainId) : d.lookup? g = valueAt d.entries g :=
  rfl

/-! ## Replacing the addresses of a grain -/

theorem entries_setEntry (d : Directory) (g : GrainId) (l : List ActivationAddress) :
    (d.setEntry g l).entries = setKeyed d.entries g l := by
  unfold setEntry setKeyed
  by_cases empty : l.isEmpty
  · rw [if_pos empty, if_pos empty]
  · rw [if_neg empty, if_neg empty, lookup?_eq_valueAt]
    by_cases held : (valueAt d.entries g).isSome
    · rw [if_pos held, if_pos held]
      refine List.map_congr_left fun p _ => ?_
      obtain ⟨key, w⟩ := p
      by_cases same : key = g <;> simp [same]
    · rw [if_neg held, if_neg held]

theorem lookup?_setEntry (d : Directory) (g : GrainId) (l : List ActivationAddress) (k : GrainId) :
    (d.setEntry g l).lookup? k =
      if k = g then (if l = [] then none else some l) else d.lookup? k := by
  rw [lookup?_eq_valueAt, entries_setEntry, valueAt_setKeyed, lookup?_eq_valueAt]

theorem address?_eq_head? (d : Directory) (g : GrainId) :
    d.address? g = ((d.lookup? g).getD []).head? := rfl

@[simp] theorem address?_setEntry_nil (d : Directory) (g k : GrainId) :
    (d.setEntry g []).address? k = if k = g then none else d.address? k := by
  rw [address?_eq_head?, lookup?_setEntry]
  by_cases here : k = g <;> simp [here, address?_eq_head?]

@[simp] theorem address?_setEntry_single (d : Directory) (g : GrainId) (e : ActivationAddress)
    (k : GrainId) : (d.setEntry g [e]).address? k = if k = g then some e else d.address? k := by
  rw [address?_eq_head?, lookup?_setEntry]
  by_cases here : k = g <;> simp [here, address?_eq_head?]

/-! ## One address per grain -/

/-- Each grain is listed once, with one address, and that address is of the grain. -/
structure Single (d : Directory) : Prop where
  nodup : (keysOf d.entries).Nodup
  single : ∀ p ∈ d.entries, ∃ e, p.2 = [e] ∧ e.grain = p.1

theorem single_of_entries_nil (empty : d.entries = []) : d.Single where
  nodup := by simp [empty]
  single := by simp [empty]

namespace Single

variable (single : d.Single)
include single

theorem lookup?_eq (g : GrainId) : d.lookup? g = (d.address? g).map ([·]) := by
  rw [address?_eq_head?]
  cases found : d.lookup? g with
  | none => rfl
  | some l =>
    obtain ⟨e, listed, -⟩ := single.single (g, l) (mem_of_valueAt found)
    simp only at listed
    simp [listed]

theorem fullLookup_eq (g : GrainId) : d.fullLookup g = (d.address? g).toList := by
  rw [fullLookup, single.lookup?_eq]
  cases d.address? g <;> rfl

theorem address?_grain (found : d.address? g = some e) : e.grain = g := by
  have listed := single.lookup?_eq g
  rw [found] at listed
  obtain ⟨e', entry, own⟩ := single.single (g, [e]) (mem_of_valueAt listed)
  simp only [List.cons.injEq, and_true] at entry
  rw [entry]
  exact own

theorem address?_isSome_iff (g : GrainId) : (d.address? g).isSome ↔ g ∈ keysOf d.entries := by
  rw [← not_iff_not, Bool.not_eq_true, Option.isSome_eq_false_iff, Option.isNone_iff_eq_none,
    ← valueAt_eq_none_iff, ← lookup?_eq_valueAt, single.lookup?_eq]
  cases d.address? g <;> simp

theorem entryCount_eq : d.entryCount = {g | (d.address? g).isSome}.ncard := by
  have counted : ∀ (ps : List (GrainId × List ActivationAddress)) (n : Nat),
      (∀ p ∈ ps, p.2.length = 1) →
        ps.foldl (fun n p => n + p.2.length) n = n + ps.length := by
    intro ps
    induction ps with
    | nil => simp
    | cons p ps ih =>
      intro n ones
      rw [List.foldl_cons, ih _ fun q held => ones q (List.mem_cons_of_mem p held),
        ones p List.mem_cons_self, List.length_cons]
      omega
  have grains : {g | (d.address? g).isSome} = ((keysOf d.entries).toFinset : Set GrainId) := by
    ext g
    simp [single.address?_isSome_iff]
  rw [entryCount, counted _ 0 fun p held => ?_, grains, Set.ncard_coe_finset,
    List.toFinset_card_of_nodup single.nodup, keysOf, List.length_map, Nat.zero_add]
  obtain ⟨e, listed, -⟩ := single.single p held
  simp [listed]

theorem setEntry {l : List ActivationAddress} (own : l = [] ∨ ∃ e, l = [e] ∧ e.grain = g) :
    (d.setEntry g l).Single := by
  refine ⟨entries_setEntry d g l ▸ keysOf_setKeyed_nodup single.nodup g l, fun p held => ?_⟩
  rw [entries_setEntry] at held
  rcases mem_setKeyed held with old | ⟨rfl, filled⟩
  · exact single.single p old
  · obtain ⟨e, rfl, grain⟩ := own.resolve_left filled
    exact ⟨e, rfl, grain⟩

end Single

/-! ## The three calls -/

theorem registerSingle_of_none (absent : d.address? a.grain = none) :
    d.registerSingle a = (d.setEntry a.grain [a], .registered a) := by
  rw [address?, List.head?_eq_none_iff] at absent
  rw [registerSingle, absent]

theorem registerSingle_of_some (found : d.address? a.grain = some e) :
    d.registerSingle a =
      if e.activation != a.activation then (d, .duplicate e) else (d, .registered e) := by
  rw [address?, List.head?_eq_some_iff] at found
  obtain ⟨rest, listed⟩ := found
  rw [registerSingle, listed]

theorem Single.registerSingle (single : d.Single) : (d.registerSingle a).1.Single := by
  cases found : d.address? a.grain with
  | none =>
    rw [registerSingle_of_none found]
    exact single.setEntry (.inr ⟨a, rfl, rfl⟩)
  | some e =>
    rw [registerSingle_of_some found]
    split <;> exact single

theorem Single.address?_unregister (single : d.Single) (a : ActivationAddress) (k : GrainId) :
    (d.unregister a).address? k =
      if k = a.grain ∧ (d.address? k).any (·.activation == a.activation) then none
      else d.address? k := by
  rw [unregister, single.fullLookup_eq]
  cases found : d.address? a.grain with
  | none =>
    by_cases here : k = a.grain
    · subst here
      simp [found]
    · simp [here]
  | some e =>
    by_cases same : e.activation = a.activation
    · by_cases here : k = a.grain
      · subst here
        simp [found, same]
      · simp [same, here]
    · have kept : [e].filter (·.activation != a.activation) = [e] := by simp [same]
      rw [Option.toList_some, kept, address?_setEntry_single]
      by_cases here : k = a.grain
      · subst here
        simp [found, same]
      · simp [here]

theorem Single.unregister (single : d.Single) (a : ActivationAddress) :
    (d.unregister a).Single := by
  apply single.setEntry
  rw [single.fullLookup_eq]
  cases found : d.address? a.grain with
  | none => exact .inl rfl
  | some e =>
    by_cases same : e.activation = a.activation
    · exact .inl (by simp [same])
    · exact .inr ⟨e, by simp [same], single.address?_grain found⟩

theorem Single.unregisterMany (single : d.Single) (as : List ActivationAddress) :
    (d.unregisterMany as).Single := by
  induction as generalizing d with
  | nil => exact single
  | cons b bs ih => exact ih (single.unregister b)

theorem Single.address?_unregisterMany (single : d.Single) (as : List ActivationAddress)
    (k : GrainId) :
    (d.unregisterMany as).address? k =
      if ∃ b ∈ as, b.grain = k ∧ (d.address? k).any (·.activation == b.activation) then none
      else d.address? k := by
  induction as generalizing d with
  | nil => simp [Directory.unregisterMany]
  | cons b bs ih =>
    rw [Directory.unregisterMany, List.foldl_cons, ← Directory.unregisterMany,
      ih (single.unregister b),
      single.address?_unregister]
    by_cases removed : k = b.grain ∧ (d.address? k).any (·.activation == b.activation)
    · rw [if_pos removed, ite_self, if_pos ⟨b, List.mem_cons_self, removed.1.symm, removed.2⟩]
    · rw [if_neg removed]
      by_cases later :
          ∃ c ∈ bs, c.grain = k ∧ (d.address? k).any (·.activation == c.activation)
      · obtain ⟨c, held, matched⟩ := later
        rw [if_pos ⟨c, held, matched⟩, if_pos ⟨c, List.mem_cons_of_mem b held, matched⟩]
      · rw [if_neg later, if_neg]
        rintro ⟨c, held, grain, same⟩
        rcases List.mem_cons.mp held with rfl | other
        · exact removed ⟨grain.symm, same⟩
        · exact later ⟨c, other, grain, same⟩

/-! ## Along every sequence of calls -/

/-- The directories that single-activation registrations and unregistrations reach from one
that holds no address. -/
inductive RegisteredSingly : Directory → Prop
  | start {d : Directory} (empty : d.entries = []) : RegisteredSingly d
  | registerSingle {d : Directory} (a : ActivationAddress) :
      RegisteredSingly d → RegisteredSingly (d.registerSingle a).1
  | unregister {d : Directory} (a : ActivationAddress) :
      RegisteredSingly d → RegisteredSingly (d.unregister a)
  | unregisterMany {d : Directory} (as : List ActivationAddress) :
      RegisteredSingly d → RegisteredSingly (d.unregisterMany as)

theorem RegisteredSingly.single (run : d.RegisteredSingly) : d.Single := by
  induction run with
  | start empty => exact single_of_entries_nil empty
  | registerSingle _ _ earlier => exact earlier.registerSingle
  | unregister a _ earlier => exact earlier.unregister a
  | unregisterMany as _ earlier => exact earlier.unregisterMany as

/-- What the directory reports and does, in terms of the grains' entries. -/
structure FirstWins (d : Directory) : Prop where
  /-- Both look-ups report the grain's entry, and nothing for a grain without one. -/
  lookups : ∀ g, d.fullLookup g = (d.address? g).toList ∧ d.lookup? g = (d.address? g).map ([·])
  /-- The count of addresses is the number of grains with an entry. -/
  count : d.entryCount = {g | (d.address? g).isSome}.ncard
  /-- A registration for a grain without an entry stores its address as the entry. -/
  stores : ∀ a, d.address? a.grain = none →
    (d.registerSingle a).2 = .registered a ∧
      ∀ g, (d.registerSingle a).1.address? g = if g = a.grain then some a else d.address? g
  /-- A registration of the entry's activation id is answered with the entry. -/
  accepts : ∀ a e, d.address? a.grain = some e → e.activation = a.activation →
    d.registerSingle a = (d, .registered e)
  /-- A registration of another activation id is answered with the entry as a duplicate. -/
  refuses : ∀ a e, d.address? a.grain = some e → e.activation ≠ a.activation →
    d.registerSingle a = (d, .duplicate e)
  /-- Unregistering removes an entry only when it has the address's grain and activation id. -/
  unregisters : ∀ a g, (d.unregister a).address? g =
    if g = a.grain ∧ (d.address? g).any (·.activation == a.activation) then none else d.address? g
  /-- Unregistering several addresses removes the entries that one of them matches. -/
  unregistersMany : ∀ as g, (d.unregisterMany as).address? g =
    if ∃ b ∈ as, b.grain = g ∧ (d.address? g).any (·.activation == b.activation) then none
    else d.address? g

/-- Along every sequence of single-activation registrations and unregistrations from an empty
directory, the first registration of a grain wins: the look-ups and the count report exactly the
grains' entries, a registration stores its address only for a grain without an entry, and only
an unregistration of the entry's grain and activation id removes it. -/
theorem first_registration_wins (run : d.RegisteredSingly) : d.FirstWins := by
  have single := run.single
  refine ⟨fun g => ⟨single.fullLookup_eq g, single.lookup?_eq g⟩, single.entryCount_eq,
    fun a absent => ?_, fun a e found same => ?_, fun a e found other => ?_,
    single.address?_unregister, single.address?_unregisterMany⟩
  · rw [registerSingle_of_none absent]
    exact ⟨rfl, address?_setEntry_single d a.grain a⟩
  · rw [registerSingle_of_some found, if_neg (by simpa using same)]
  · rw [registerSingle_of_some found, if_pos (by simpa using other)]

/-- An empty directory after one registration for grain `alice` is reached by single-activation
calls, and the first registration wins there. -/
theorem alice_registration_wins :
    (({} : Directory).registerSingle
        ⟨.localhost 1 1, ⟨0xBA4E, "alice", .grain⟩, 1⟩).1.RegisteredSingly ∧
      (({} : Directory).registerSingle
        ⟨.localhost 1 1, ⟨0xBA4E, "alice", .grain⟩, 1⟩).1.FirstWins :=
  ⟨.registerSingle _ (.start rfl), first_registration_wins (.registerSingle _ (.start rfl))⟩

end Directory

end ActorSilo
