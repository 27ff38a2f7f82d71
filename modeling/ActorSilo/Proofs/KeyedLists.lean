import Mathlib
import ActorSilo.Directory
import ActorSilo.Activation.Registry

/-! # Keyed lists

The directory keeps the addresses of each grain, and the registry the ids of each grain and the
number of activations of each type name, as lists of entries keyed by grain or by name. A key
stands for the value of its first entry (`valueAt`).

The code rewrites such a list in three ways: it drops a key, rewrites the entries of a key, or
appends an entry for a key. Each acts on `valueAt` as the update of a function at one key,
whatever else the list holds (`valueAt_filter_ne`, `valueAt_map_replace`,
`valueAt_append_fresh`). Each keeps the keys free of duplicates, and over such keys a list holds
exactly the entries its values name (`mem_iff_valueAt`) and the sum of its counts splits at any
key (`sum_filter_ne`).
-/

namespace ActorSilo

instance : LawfulBEq GrainKind where
  eq_of_beq {s t} := by cases s <;> cases t <;> decide
  rfl {s} := by cases s <;> rfl

instance : LawfulBEq GrainId where
  eq_of_beq {g h} same := by
    obtain ⟨t, k, kind⟩ := g
    obtain ⟨t', k', kind'⟩ := h
    simp only [BEq.beq, instBEqGrainId.beq, Bool.and_eq_true, decide_eq_true_eq] at same
    obtain ⟨rfl, rfl, kinds⟩ := same
    rw [eq_of_beq (show (kind == kind') = true from kinds)]
  rfl {g} := by
    obtain ⟨t, k, kind⟩ := g
    simp only [BEq.beq, instBEqGrainId.beq, Bool.and_eq_true, decide_true, true_and]
    exact beq_self_eq_true kind

section Keyed

variable {κ ν : Type} {xs : List (κ × ν)} {g k : κ} {v : ν}

def keysOf (xs : List (κ × ν)) : List κ := xs.map (·.1)

@[simp] theorem keysOf_nil : keysOf ([] : List (κ × ν)) = [] := rfl

@[simp] theorem keysOf_cons (p : κ × ν) (xs : List (κ × ν)) :
    keysOf (p :: xs) = p.1 :: keysOf xs := rfl

theorem keysOf_filter_nodup (nodup : (keysOf xs).Nodup) (keep : κ × ν → Bool) :
    (keysOf (xs.filter keep)).Nodup := by
  unfold keysOf at nodup ⊢
  exact (List.filter_sublist.map _).nodup nodup

theorem keysOf_map (f : κ × ν → κ × ν) (keys : ∀ p, (f p).1 = p.1) :
    keysOf (xs.map f) = keysOf xs := by
  simp only [keysOf, List.map_map]
  exact List.map_congr_left fun p _ => keys p

variable [BEq κ]

/-- The value of key `k`: that of its first entry. -/
def valueAt (xs : List (κ × ν)) (k : κ) : Option ν := (xs.find? (·.1 == k)).map (·.2)

@[simp] theorem valueAt_nil (k : κ) : valueAt ([] : List (κ × ν)) k = none := rfl

variable [LawfulBEq κ] [DecidableEq κ]

theorem valueAt_cons (p : κ × ν) (xs : List (κ × ν)) (k : κ) :
    valueAt (p :: xs) k = if p.1 = k then some p.2 else valueAt xs k := by
  by_cases same : p.1 = k <;> simp [valueAt, same]

theorem valueAt_eq_none_iff : valueAt xs k = none ↔ k ∉ keysOf xs := by
  induction xs with
  | nil => simp
  | cons p xs ih =>
    rw [valueAt_cons, keysOf_cons, List.mem_cons]
    by_cases same : p.1 = k
    · simp [same]
    · simp [same, ih, Ne.symm same]

theorem mem_of_valueAt (found : valueAt xs k = some v) : (k, v) ∈ xs := by
  induction xs with
  | nil => cases found
  | cons p xs ih =>
    rw [valueAt_cons] at found
    split at found
    · rename_i same
      cases found
      rw [← same]
      exact List.mem_cons_self
    · exact List.mem_cons_of_mem p (ih found)

/-- Over duplicate-free keys, a list holds exactly the entries its values name. -/
theorem mem_iff_valueAt (nodup : (keysOf xs).Nodup) : (k, v) ∈ xs ↔ valueAt xs k = some v := by
  refine ⟨fun held => ?_, mem_of_valueAt⟩
  induction xs with
  | nil => cases held
  | cons p xs ih =>
    rw [keysOf_cons, List.nodup_cons] at nodup
    rw [valueAt_cons]
    rcases List.mem_cons.mp held with here | later
    · rw [← here]
      simp
    · have other : p.1 ≠ k := fun same =>
        nodup.1 (same ▸ List.mem_map_of_mem (f := (·.1)) later)
      rw [if_neg other]
      exact ih nodup.2 later

/-- Dropping key `g` removes its value and keeps every other. -/
theorem valueAt_filter_ne (xs : List (κ × ν)) (g k : κ) :
    valueAt (xs.filter (·.1 != g)) k = if k = g then none else valueAt xs k := by
  induction xs with
  | nil => simp
  | cons p xs ih =>
    rw [List.filter_cons, valueAt_cons]
    by_cases dropped : p.1 = g
    · rw [if_neg (by simp [dropped]), ih]
      by_cases here : k = g
      · rw [if_pos here, if_pos here]
      · rw [if_neg here, if_neg here, if_neg (dropped ▸ Ne.symm here)]
    · rw [if_pos (by simpa using dropped), valueAt_cons, ih]
      by_cases here : k = g
      · subst here
        simp [dropped]
      · rw [if_neg here, if_neg here]

/-- Rewriting the entries of key `g` to hold `l`, and no other entry, gives `g` the value `l`
when it had one and keeps every other value. -/
theorem valueAt_map_replace (xs : List (κ × ν)) (g : κ) (l : ν) (f : κ × ν → κ × ν)
    (hit : ∀ w, f (g, w) = (g, l)) (miss : ∀ p : κ × ν, p.1 ≠ g → f p = p) (k : κ) :
    valueAt (xs.map f) k = if k = g then (valueAt xs g).map (fun _ => l) else valueAt xs k := by
  induction xs with
  | nil => simp
  | cons p xs ih =>
    obtain ⟨key, w⟩ := p
    rw [List.map_cons, valueAt_cons, ih, valueAt_cons, valueAt_cons]
    by_cases keyed : key = g
    · subst keyed
      rw [hit]
      by_cases here : k = key
      · subst here
        simp
      · simp [here, Ne.symm here]
    · rw [miss (key, w) keyed]
      by_cases here : k = g
      · subst here
        simp [keyed]
      · simp [here]

/-- Appending an entry for a key the list does not hold gives the key that value. -/
theorem valueAt_append_fresh (fresh : valueAt xs g = none) (v : ν) (k : κ) :
    valueAt (xs ++ [(g, v)]) k = if k = g then some v else valueAt xs k := by
  induction xs with
  | nil =>
    rw [List.nil_append, valueAt_cons]
    by_cases here : k = g
    · simp [here]
    · simp [here, Ne.symm here]
  | cons p xs ih =>
    rw [valueAt_cons] at fresh
    split at fresh
    · cases fresh
    · rename_i other
      rw [List.cons_append, valueAt_cons, valueAt_cons, ih fresh]
      by_cases here : k = g
      · subst here
        simp [other]
      · simp [here]

theorem keysOf_append_fresh_nodup (nodup : (keysOf xs).Nodup) (fresh : valueAt xs g = none)
    (v : ν) : (keysOf (xs ++ [(g, v)])).Nodup := by
  rw [valueAt_eq_none_iff] at fresh
  have keys : keysOf (xs ++ [(g, v)]) = (keysOf xs).concat g := by simp [keysOf]
  rw [keys]
  exact List.Nodup.concat fresh nodup

end Keyed

section Lists

variable {κ β : Type} [BEq κ] [LawfulBEq κ] [DecidableEq κ] {xs : List (κ × List β)} {g : κ}
  {l : List β}

/-- Gives key `g` the list `l`: rewrites the entries of `g` when it has one, appends an entry when
it has none, and drops the key when `l` is empty. The directory keeps its addresses, and the
registry its ids by grain, so. -/
def setKeyed (xs : List (κ × List β)) (g : κ) (l : List β) : List (κ × List β) :=
  if l.isEmpty then xs.filter (·.1 != g)
  else if (valueAt xs g).isSome then xs.map fun p => if p.1 == g then (g, l) else p
  else xs ++ [(g, l)]

theorem valueAt_setKeyed (xs : List (κ × List β)) (g : κ) (l : List β) (k : κ) :
    valueAt (setKeyed xs g l) k = if k = g then (if l = [] then none else some l)
      else valueAt xs k := by
  unfold setKeyed
  split
  · rename_i empty
    rw [List.isEmpty_iff.mp empty, valueAt_filter_ne]
    by_cases here : k = g <;> simp [here]
  · rename_i nonempty
    have filled : l ≠ [] := fun none => by simp [none] at nonempty
    split
    · rename_i held
      obtain ⟨old, found⟩ := Option.isSome_iff_exists.mp held
      rw [valueAt_map_replace _ g l]
      · by_cases here : k = g <;> simp [here, found]
      · intro w
        simp
      · intro p other
        simp [other]
    · rename_i fresh
      -- the split has already settled the test of an empty list on the right
      rw [valueAt_append_fresh (by simpa using fresh)]

theorem keysOf_setKeyed_nodup (nodup : (keysOf xs).Nodup) (g : κ) (l : List β) :
    (keysOf (setKeyed xs g l)).Nodup := by
  unfold setKeyed
  split
  · exact keysOf_filter_nodup nodup _
  · split
    · rw [keysOf_map]
      · exact nodup
      · intro p
        split
        · rename_i same
          exact (eq_of_beq same).symm
        · rfl
    · rename_i fresh
      exact keysOf_append_fresh_nodup nodup (by simpa using fresh) l

@[simp] theorem getD_listed (l : List β) : (if l = [] then none else some l).getD [] = l := by
  split <;> simp_all

@[simp] theorem listed_ne_some_nil (l : List β) : (if l = [] then none else some l) ≠ some [] := by
  split <;> simp_all

theorem valueAt_setKeyed_ne_nil {xs : List (κ × List β)} (filled : ∀ k, valueAt xs k ≠ some [])
    (g : κ) (l : List β) (k : κ) : valueAt (setKeyed xs g l) k ≠ some [] := by
  rw [valueAt_setKeyed]
  split
  · exact listed_ne_some_nil l
  · exact filled k

omit [LawfulBEq κ] [DecidableEq κ] in
theorem mem_setKeyed {p : κ × List β} (held : p ∈ setKeyed xs g l) :
    p ∈ xs ∨ (p = (g, l) ∧ l ≠ []) := by
  unfold setKeyed at held
  split at held
  · exact .inl (List.mem_of_mem_filter held)
  · rename_i nonempty
    have filled : l ≠ [] := fun none => by simp [none] at nonempty
    split at held
    · obtain ⟨q, listed, rfl⟩ := List.mem_map.mp held
      split
      · exact .inr ⟨rfl, filled⟩
      · exact .inl listed
    · rcases List.mem_append.mp held with old | new
      · exact .inl old
      · exact .inr ⟨List.mem_singleton.mp new, filled⟩

end Lists

section Counts

variable {κ : Type} [BEq κ] [LawfulBEq κ] [DecidableEq κ]

/-- Over duplicate-free keys, the counts of a list are those of its other keys and that of `g`. -/
theorem sum_filter_ne (xs : List (κ × Nat)) (g : κ) (nodup : (keysOf xs).Nodup) :
    (xs.map (·.2)).sum = ((xs.filter (·.1 != g)).map (·.2)).sum + (valueAt xs g).getD 0 := by
  induction xs with
  | nil => simp
  | cons p xs ih =>
    rw [keysOf_cons, List.nodup_cons] at nodup
    rw [List.filter_cons, valueAt_cons, List.map_cons, List.sum_cons, ih nodup.2]
    by_cases here : p.1 = g
    · have absent : valueAt xs g = none := valueAt_eq_none_iff.mpr (here ▸ nodup.1)
      simp [here, absent]
      omega
    · simp [here]
      omega

@[simp] theorem getD_counted (c : Nat) : (if c = 0 then none else some c).getD 0 = c := by
  split <;> simp_all

end Counts

end ActorSilo
