import ActorSilo.Storage
import ActorSilo.Proofs.KeyedLists

/-! # Optimistic concurrency of the in-memory store

A store hands out version tags `1, 2, …`, one per write that goes through, counted in a 64-bit
word that wraps (`writes_run`); a call that is refused changes nothing (`Step`, the one inversion
of `Store.call`). While fewer than 2^64 writes went through (`Fits`), no tag is handed out twice,
a key holds its last write unless cleared later, and a tag lets at most one conditional write or
clear through. The last two rest on `Sound`: no two keys hold the same tag, so a replaced tag
leaves the store for good (`Retired`).

**Main result:** `optimistic_concurrency`.
-/

namespace ActorSilo

namespace Store

/-! ## What one call does -/

def Call.key : Call → String × GrainId
  | .read typeName g => (typeName, g)
  | .write typeName g _ _ => (typeName, g)
  | .clear typeName g _ => (typeName, g)

/-- The tag a call names; a read names none. -/
def Call.expected : Call → Option String
  | .read _ _ => none
  | .write _ _ _ e => e
  | .clear _ _ e => e

def Reply.isRefused : Reply → Bool
  | .refused _ => true
  | _ => false

def stateAt (s : Store) (k : String × GrainId) : Option StoredState := valueAt s.entries k

theorem read?_eq_stateAt (s : Store) (typeName : String) (g : GrainId) :
    s.read? typeName g = s.stateAt (typeName, g) := rfl

/-- The tag `expected`, when one is given, is the tag of `current`. -/
def Matches (current : Option StoredState) : Option String → Prop
  | none => True
  | some e => current.map (·.etag) = some e

theorem checkTag_eq_ok_iff (current : Option StoredState) (expected : Option String) :
    checkTag current expected = .ok () ↔ Matches current expected := by
  rcases expected with _ | e
  · simp [checkTag, Matches]
  · rcases current with _ | c
    · simp [checkTag, Matches]
    · by_cases same : c.etag = e <;> simp [checkTag, Matches, same]

/-- The tag the next write that goes through hands out. -/
def nextTag (s : Store) : String := toString (s.writes + 1).toNat

theorem toNat_add_one {n : UInt64} (room : n.toNat + 1 < 2 ^ 64) : (n + 1).toNat = n.toNat + 1 := by
  rw [UInt64.toNat_add, UInt64.toNat_one, Nat.mod_eq_of_lt room]

theorem nextTag_of_room {s : Store} (room : s.writes.toNat + 1 < 2 ^ 64) :
    s.nextTag = toString (s.writes.toNat + 1) := by
  rw [nextTag, toNat_add_one room]

theorem tag_ne {m n : Nat} (apart : m ≠ n) : toString (m + 1) ≠ toString (n + 1) :=
  fun same => apart (Nat.succ_injective (Nat.repr_inj.mp same))

/-- The store after a write of `data` at `k` that went through. -/
def put (s : Store) (k : String × GrainId) (data : List UInt8) : Store :=
  { entries := s.entries.filter (·.1 != k) ++ [(k, ⟨data, s.nextTag⟩)], writes := s.writes + 1 }

/-- The store after a clear of `k` that went through. -/
def erase (s : Store) (k : String × GrainId) : Store :=
  { s with entries := s.entries.filter (·.1 != k) }

@[simp] theorem put_writes (s : Store) (k : String × GrainId) (data : List UInt8) :
    (s.put k data).writes = s.writes + 1 := rfl

@[simp] theorem erase_writes (s : Store) (k : String × GrainId) : (s.erase k).writes = s.writes :=
  rfl

theorem stateAt_put (s : Store) (k : String × GrainId) (data : List UInt8) (k' : String × GrainId) :
    (s.put k data).stateAt k' = if k' = k then some ⟨data, s.nextTag⟩ else s.stateAt k' := by
  have gone : valueAt (s.entries.filter (·.1 != k)) k = none := by simp [valueAt_filter_ne]
  simp only [stateAt, put, valueAt_append_fresh gone, valueAt_filter_ne]
  split <;> rfl

theorem stateAt_erase (s : Store) (k k' : String × GrainId) :
    (s.erase k).stateAt k' = if k' = k then none else s.stateAt k' :=
  valueAt_filter_ne s.entries k k'

/-- Everything a call can do: a read answers the state of its key; a call naming a tag the key
does not hold is refused; a write that goes through stores its data under the next tag; a clear
that goes through drops the key. -/
inductive Step (s : Store) : Call → Store × Reply → Prop
  | read (typeName : String) (g : GrainId) :
      Step s (.read typeName g) (s, .state (s.stateAt (typeName, g)))
  | refused (c : Call) (e : StorageError) :
      ¬ Matches (s.stateAt c.key) c.expected → Step s c (s, .refused e)
  | write (typeName : String) (g : GrainId) (data : List UInt8) (expected : Option String) :
      Matches (s.stateAt (typeName, g)) expected →
      Step s (.write typeName g data expected) (s.put (typeName, g) data, .written s.nextTag)
  | clear (typeName : String) (g : GrainId) (expected : Option String) :
      Matches (s.stateAt (typeName, g)) expected →
      Step s (.clear typeName g expected) (s.erase (typeName, g), .cleared)

theorem step_call (s : Store) : ∀ c, Step s c (s.call c)
  | .read typeName g => .read typeName g
  | .write typeName g data expected => by
    by_cases ok : Matches (s.stateAt (typeName, g)) expected
    · have checked := (checkTag_eq_ok_iff _ _).mpr ok
      simp only [call, write, read?_eq_stateAt, checked]
      exact .write typeName g data expected ok
    · rcases checked : checkTag (s.stateAt (typeName, g)) expected with e | _
      · simp only [call, write, read?_eq_stateAt, checked]
        exact .refused (.write typeName g data expected) e ok
      · exact absurd ((checkTag_eq_ok_iff _ _).mp checked) ok
  | .clear typeName g expected => by
    by_cases ok : Matches (s.stateAt (typeName, g)) expected
    · have checked := (checkTag_eq_ok_iff _ _).mpr ok
      simp only [call, clear, read?_eq_stateAt, checked]
      exact .clear typeName g expected ok
    · rcases checked : checkTag (s.stateAt (typeName, g)) expected with e | _
      · simp only [call, clear, read?_eq_stateAt, checked]
        exact .refused (.clear typeName g expected) e ok
      · exact absurd ((checkTag_eq_ok_iff _ _).mp checked) ok

namespace Step

variable {s : Store} {c : Call} {out : Store × Reply}

theorem isRefused_iff (step : Step s c out) :
    out.2.isRefused = true ↔ ¬ Matches (s.stateAt c.key) c.expected := by
  cases step with
  | read => simp [Reply.isRefused, Call.expected, Matches]
  | refused _ _ bad => simp [Reply.isRefused, bad]
  | write _ _ _ _ ok => simpa [Reply.isRefused, Call.key, Call.expected] using ok
  | clear _ _ _ ok => simpa [Reply.isRefused, Call.key, Call.expected] using ok

theorem keeps_of_isRefused (step : Step s c out) (refused : out.2.isRefused = true) : out.1 = s := by
  cases step with
  | refused => rfl
  | read | write | clear => simp [Reply.isRefused] at refused

end Step

/-! ## Answered calls -/

/-- What an answered call leaves at key `k`, when it changes `k`: the state a write stores, or
nothing after a clear. -/
def leaves (k : String × GrainId) : Call × Reply → Option (Option StoredState)
  | (.write typeName g data _, .written tag) =>
    if (typeName, g) = k then some (some ⟨data, tag⟩) else none
  | (.clear typeName g _, .cleared) => if (typeName, g) = k then some none else none
  | _ => none

def issuedBy : Call × Reply → Option String
  | (_, .written tag) => some tag
  | _ => none

/-- The tag a call used up: the one it named, when it went through. -/
def usedBy : Call × Reply → Option String
  | (c, r) => if r.isRefused then none else c.expected

/-- The count of writes of `s` has room for the write the answered call `p` made, if it made
one. -/
def Room (s : Store) (p : Call × Reply) : Prop := issuedBy p ≠ none → s.writes.toNat + 1 < 2 ^ 64

/-- The tags the answered calls `h` handed out, in order. -/
def issued (h : List (Call × Reply)) : List String := h.filterMap issuedBy

/-- The tags the answered calls `h` used up, in order. -/
def consumed (h : List (Call × Reply)) : List String := h.filterMap usedBy

/-- The state key `k` holds after the answered calls `h`, from `before`: that of the last write
of `k` that went through, unless a clear of `k` went through later. -/
def lastChange (k : String × GrainId) (h : List (Call × Reply)) (before : Option StoredState) :
    Option StoredState :=
  ((h.filterMap (leaves k)).getLast?).getD before

theorem lastChange_cons (k : String × GrainId) (p : Call × Reply) (h : List (Call × Reply))
    (before : Option StoredState) :
    lastChange k (p :: h) before = lastChange k h ((leaves k p).getD before) := by
  unfold lastChange
  rcases change : leaves k p with _ | st
  · simp [change]
  · rw [List.filterMap_cons_some change, List.getLast?_cons]
    cases (h.filterMap (leaves k)).getLast? <;> rfl

namespace Step

variable {s : Store} {c : Call} {out : Store × Reply}

theorem stateAt (step : Step s c out) (k : String × GrainId) :
    out.1.stateAt k = (leaves k (c, out.2)).getD (s.stateAt k) := by
  cases step with
  | read => rfl
  | refused c e => cases c <;> rfl
  | write typeName g data expected =>
    rw [stateAt_put]
    by_cases here : k = (typeName, g)
    · simp [leaves, here]
    · simp [leaves, here, Ne.symm here]
  | clear typeName g expected =>
    rw [stateAt_erase]
    by_cases here : k = (typeName, g)
    · simp [leaves, here]
    · simp [leaves, here, Ne.symm here]

theorem leaves_ne (step : Step s c out) {k k' : String × GrainId} (other : k' ≠ k)
    (changes : leaves k (c, out.2) ≠ none) : leaves k' (c, out.2) = none := by
  cases step with
  | read => rfl
  | refused c e => cases c <;> rfl
  | write typeName g data _ _ =>
    simp only [leaves] at changes ⊢
    split at changes
    · rename_i at_k
      rw [if_neg (fun at_k' => other (at_k'.symm.trans at_k))]
    · exact absurd rfl changes
  | clear typeName g _ _ =>
    simp only [leaves] at changes ⊢
    split at changes
    · rename_i at_k
      rw [if_neg (fun at_k' => other (at_k'.symm.trans at_k))]
    · exact absurd rfl changes

theorem issuedBy (step : Step s c out) :
    (Store.issuedBy (c, out.2) = some s.nextTag ∧ out.1.writes = s.writes + 1) ∨
      (Store.issuedBy (c, out.2) = none ∧ out.1.writes = s.writes) := by
  cases step with
  | write => exact .inl ⟨rfl, rfl⟩
  | read | refused | clear => exact .inr ⟨rfl, rfl⟩

theorem issues (step : Step s c out) (room : Room s (c, out.2)) {tag : String}
    (handed : Store.issuedBy (c, out.2) = some tag) :
    tag = toString (s.writes.toNat + 1) ∧ out.1.writes.toNat = s.writes.toNat + 1 := by
  have below := room (by rw [handed]; exact Option.some_ne_none _)
  rcases step.issuedBy with ⟨next, counted⟩ | ⟨none_handed, _⟩
  · rw [handed, Option.some.injEq] at next
    rw [next, counted, toNat_add_one below]
    exact ⟨nextTag_of_room below, rfl⟩
  · rw [handed] at none_handed
    cases none_handed

theorem writes_le (step : Step s c out) (room : Room s (c, out.2)) :
    s.writes.toNat ≤ out.1.writes.toNat := by
  rcases handed : Store.issuedBy (c, out.2) with _ | tag
  · rcases step.issuedBy with ⟨next, _⟩ | ⟨_, counted⟩
    · rw [handed] at next
      cases next
    · rw [counted]
  · have := (step.issues room handed).2
    omega

theorem leaves_tag (step : Step s c out) {k : String × GrainId} {st : StoredState}
    (left : leaves k (c, out.2) = some (some st)) : Store.issuedBy (c, out.2) = some st.etag := by
  cases step with
  | read => cases left
  | refused c e => cases c <;> cases left
  | write typeName g data _ _ =>
    simp only [leaves] at left
    split at left
    · cases left
      rfl
    · cases left
  | clear typeName g _ _ =>
    simp only [leaves] at left
    split at left <;> cases left

theorem usedBy (step : Step s c out) {tag : String} (used : Store.usedBy (c, out.2) = some tag) :
    (s.stateAt c.key).map (·.etag) = some tag ∧ leaves c.key (c, out.2) ≠ none := by
  cases step with
  | read => simp [Store.usedBy, Reply.isRefused, Call.expected] at used
  | refused => simp [Store.usedBy, Reply.isRefused] at used
  | write typeName g data expected ok =>
    simp only [Store.usedBy, Reply.isRefused, Call.expected, Bool.false_eq_true, if_false] at used
    subst used
    exact ⟨ok, by simp [leaves, Call.key]⟩
  | clear typeName g expected ok =>
    simp only [Store.usedBy, Reply.isRefused, Call.expected, Bool.false_eq_true, if_false] at used
    subst used
    exact ⟨ok, by simp [leaves, Call.key]⟩

end Step

/-! ## Runs of calls -/

/-- The store after the calls `cs`. -/
def run (s : Store) (cs : List Call) : Store := cs.foldl (fun s c => (s.call c).1) s

/-- The calls `cs`, made from `s` on, with their answers. -/
def history : Store → List Call → List (Call × Reply)
  | _, [] => []
  | s, c :: cs => (c, (s.call c).2) :: history (s.call c).1 cs

@[simp] theorem run_nil (s : Store) : run s [] = s := rfl

@[simp] theorem run_cons (s : Store) (c : Call) (cs : List Call) :
    run s (c :: cs) = run (s.call c).1 cs := rfl

theorem run_append (s : Store) (pre post : List Call) :
    run s (pre ++ post) = run (run s pre) post := List.foldl_append

/-- After any calls a key holds the state of the last write of it that went through, unless a
clear of it went through later; with neither, what it held before. -/
theorem stateAt_run (s : Store) (cs : List Call) (k : String × GrainId) :
    (run s cs).stateAt k = lastChange k (history s cs) (s.stateAt k) := by
  -- induction on the calls, from any store
  induction cs generalizing s with
  | nil => rfl
  | cons c cs ih => rw [run_cons, history, lastChange_cons, ih, (step_call s c).stateAt]

theorem history_append (s : Store) (pre post : List Call) :
    history s (pre ++ post) = history s pre ++ history (run s pre) post := by
  induction pre generalizing s with
  | nil => rfl
  | cons c pre ih => rw [List.cons_append, history, history, ih, run_cons, List.cons_append]

/-- The count of writes after any calls: the writes that went through, modulo 2^64. -/
theorem writes_run (s : Store) (cs : List Call) :
    (run s cs).writes.toNat = (s.writes.toNat + (issued (history s cs)).length) % 2 ^ 64 := by
  induction cs generalizing s with
  | nil => simp [history, issued, Nat.mod_eq_of_lt (UInt64.toNat_lt s.writes)]
  | cons c cs ih =>
    rw [run_cons, ih, history]
    unfold issued
    rcases (step_call s c).issuedBy with ⟨handed, counted⟩ | ⟨none_handed, counted⟩
    · rw [counted, UInt64.toNat_add, UInt64.toNat_one, Nat.mod_add_mod,
        List.filterMap_cons_some handed, List.length_cons, Nat.add_assoc, Nat.add_comm 1]
    · rw [counted, List.filterMap_cons_none none_handed]

/-- Fewer than 2^64 writes counted by `s` and by the calls `cs` made from `s` on: the count of
writes never wraps. -/
def Fits (s : Store) (cs : List Call) : Prop :=
  s.writes.toNat + (issued (history s cs)).length < 2 ^ 64

theorem Fits.cons {s : Store} {c : Call} {cs : List Call} (fits : Fits s (c :: cs)) :
    Room s (c, (s.call c).2) ∧ Fits (s.call c).1 cs := by
  unfold Fits issued at fits ⊢
  rcases (step_call s c).issuedBy with ⟨handed, counted⟩ | ⟨none_handed, counted⟩
  · rw [history, List.filterMap_cons_some handed, List.length_cons] at fits
    have room : s.writes.toNat + 1 < 2 ^ 64 := by omega
    refine ⟨fun _ => room, ?_⟩
    rw [counted, toNat_add_one room]
    omega
  · rw [history, List.filterMap_cons_none none_handed] at fits
    exact ⟨fun handed => absurd none_handed handed, by rw [counted]; exact fits⟩

theorem Fits.split {s : Store} {pre post : List Call} (fits : Fits s (pre ++ post)) :
    Fits s pre ∧ Fits (run s pre) post := by
  unfold Fits issued at fits ⊢
  rw [history_append, List.filterMap_append, List.length_append] at fits
  have counted := writes_run s pre
  unfold issued at counted
  rw [Nat.mod_eq_of_lt (by omega)] at counted
  omega

/-- The tags handed out from `s` on, while the count does not wrap, are told apart, and all come
after the writes of `s`. -/
theorem issued_history (s : Store) (cs : List Call) (fits : Fits s cs) :
    (issued (history s cs)).Nodup ∧
      ∀ tag ∈ issued (history s cs), ∃ n, s.writes.toNat ≤ n ∧ tag = toString (n + 1) := by
  induction cs generalizing s with
  | nil => simp [history, issued]
  | cons c cs ih =>
    obtain ⟨room, rest⟩ := fits.cons
    obtain ⟨nodup, later⟩ := ih (s.call c).1 rest
    rcases handed : issuedBy (c, (s.call c).2) with _ | tag
    · simp only [history, issued, List.filterMap_cons_none handed] at nodup later ⊢
      rcases (step_call s c).issuedBy with ⟨next, _⟩ | ⟨_, counted⟩
      · rw [handed] at next
        cases next
      · rw [counted] at later
        exact ⟨nodup, later⟩
    · obtain ⟨now, counted⟩ := (step_call s c).issues room handed
      simp only [history, issued, List.filterMap_cons_some handed] at nodup later ⊢
      rw [counted] at later
      -- the tag handed out now is below every tag handed out later
      have fresh : tag ∉ (history (s.call c).1 cs).filterMap issuedBy := by
        intro again
        obtain ⟨n, above, same⟩ := later _ again
        exact tag_ne (by omega) (now.symm.trans same)
      refine ⟨List.nodup_cons.mpr ⟨fresh, nodup⟩, fun t held => ?_⟩
      rcases List.mem_cons.mp held with now' | afterwards
      · exact ⟨s.writes.toNat, le_rfl, now'.trans now⟩
      · obtain ⟨n, above, same⟩ := later t afterwards
        exact ⟨n, by omega, same⟩

/-! ## Tags held, tags retired -/

/-- Every tag a store holds was handed out, and no two keys hold the same one. -/
structure Sound (s : Store) : Prop where
  handed : ∀ k st, s.stateAt k = some st → ∃ n < s.writes.toNat, st.etag = toString (n + 1)
  unique : ∀ k k' st st', s.stateAt k = some st → s.stateAt k' = some st' →
    st.etag = st'.etag → k = k'

theorem sound_empty : Sound {} where
  handed _ _ held := by simp [stateAt] at held
  unique _ _ _ _ held := by simp [stateAt] at held

/-- A tag that was handed out and that no key holds any longer. -/
structure Retired (s : Store) (tag : String) : Prop where
  handed : ∃ n < s.writes.toNat, tag = toString (n + 1)
  unheld : ∀ k st, s.stateAt k = some st → st.etag ≠ tag

section Steps

variable {s : Store} {c : Call} {out : Store × Reply}

theorem Step.held (step : Step s c out) {k : String × GrainId} {st : StoredState}
    (held : out.1.stateAt k = some st) :
    (leaves k (c, out.2) = some (some st) ∧ Store.issuedBy (c, out.2) = some st.etag) ∨
      (leaves k (c, out.2) = none ∧ s.stateAt k = some st) := by
  rw [step.stateAt] at held
  rcases left : leaves k (c, out.2) with _ | after
  · rw [left, Option.getD_none] at held
    exact .inr ⟨rfl, held⟩
  · rw [left, Option.getD_some] at held
    subst held
    exact .inl ⟨rfl, step.leaves_tag left⟩

theorem Step.issued_ne (step : Step s c out) (room : Room s (c, out.2)) {tag : String}
    (handed : Store.issuedBy (c, out.2) = some tag) {n : Nat} (below : n < s.writes.toNat) :
    tag ≠ toString (n + 1) := by
  rw [(step.issues room handed).1]
  exact tag_ne (by omega)

theorem Sound.step (sound : Sound s) (step : Step s c out) (room : Room s (c, out.2)) :
    Sound out.1 where
  handed k st held := by
    rcases step.held held with ⟨_, handed⟩ | ⟨_, before⟩
    · obtain ⟨tag, counted⟩ := step.issues room handed
      exact ⟨s.writes.toNat, by omega, tag⟩
    · obtain ⟨n, below, tag⟩ := sound.handed k st before
      exact ⟨n, by have := step.writes_le room; omega, tag⟩
  unique k₁ k₂ st₁ st₂ held₁ held₂ same := by
    -- a tag written now is held at the key written only; older tags are held where they were
    rcases step.held held₁ with ⟨left₁, handed₁⟩ | ⟨kept₁, before₁⟩ <;>
      rcases step.held held₂ with ⟨left₂, handed₂⟩ | ⟨kept₂, before₂⟩
    · by_contra apart
      have := step.leaves_ne (Ne.symm apart) (by rw [left₁]; simp)
      rw [left₂] at this
      cases this
    · obtain ⟨n, below, old⟩ := sound.handed k₂ st₂ before₂
      exact absurd (same.trans old) (step.issued_ne room handed₁ below)
    · obtain ⟨n, below, old⟩ := sound.handed k₁ st₁ before₁
      exact absurd (same.symm.trans old) (step.issued_ne room handed₂ below)
    · exact sound.unique k₁ k₂ st₁ st₂ before₁ before₂ same

theorem Retired.step {tag : String} (retired : Retired s tag) (step : Step s c out)
    (room : Room s (c, out.2)) : Retired out.1 tag := by
  obtain ⟨n, below, handed⟩ := retired.handed
  constructor
  · exact ⟨n, by have := step.writes_le room; omega, handed⟩
  · intro k st held
    rcases step.held held with ⟨_, handed'⟩ | ⟨_, before⟩
    · rw [handed]
      exact step.issued_ne room handed' below
    · exact retired.unheld k st before

theorem retired_of_step (sound : Sound s) (step : Step s c out) (room : Room s (c, out.2))
    {k : String × GrainId} {st : StoredState} (held : s.stateAt k = some st)
    (changes : leaves k (c, out.2) ≠ none) : Retired out.1 st.etag := by
  obtain ⟨n, below, handed⟩ := sound.handed k st held
  constructor
  · exact ⟨n, by have := step.writes_le room; omega, handed⟩
  · intro k' st' held' same
    rcases step.held held' with ⟨_, handed'⟩ | ⟨kept, before⟩
    · exact step.issued_ne room handed' below (same.trans handed)
    · -- the key is not `k`, which the call changed, and no other key held the tag of `k`
      have other : k' ≠ k := fun here => changes (here ▸ kept)
      exact other (sound.unique k' k st' st before held same)

end Steps

theorem Sound.run {s : Store} (sound : Sound s) (cs : List Call) (fits : Fits s cs) :
    Sound (run s cs) := by
  induction cs generalizing s with
  | nil => exact sound
  | cons c cs ih =>
    obtain ⟨room, rest⟩ := fits.cons
    exact ih (sound.step (step_call s c) room) rest

theorem Retired.run {s : Store} {tag : String} (retired : Retired s tag) (cs : List Call)
    (fits : Fits s cs) : Retired (run s cs) tag := by
  induction cs generalizing s with
  | nil => exact retired
  | cons c cs ih =>
    obtain ⟨room, rest⟩ := fits.cons
    exact ih (retired.step (step_call s c) room) rest

theorem Retired.refuses {s : Store} {tag : String} (retired : Retired s tag) {c : Call}
    (names : c.expected = some tag) : (s.call c).2.isRefused = true := by
  rw [(step_call s c).isRefused_iff, names]
  intro held
  obtain ⟨st, found, same⟩ := Option.map_eq_some_iff.mp held
  exact retired.unheld c.key st found same

/-- Once a write or clear of `k` goes through, the tag `k` held before is retired. -/
theorem retired_of_changed {s : Store} (sound : Sound s) {k : String × GrainId}
    {st : StoredState} (held : s.stateAt k = some st) (cs : List Call) (fits : Fits s cs)
    (changed : ∃ p ∈ history s cs, leaves k p ≠ none) : Retired (run s cs) st.etag := by
  -- induction on the calls: until the first change of `k`, the key keeps its state
  induction cs generalizing s with
  | nil => simp [history] at changed
  | cons c cs ih =>
    obtain ⟨room, rest⟩ := fits.cons
    by_cases now : leaves k (c, (s.call c).2) ≠ none
    · exact (retired_of_step sound (step_call s c) room held now).run cs rest
    · simp only [history, List.mem_cons, exists_eq_or_imp] at changed
      have later := changed.resolve_left now
      have kept : (s.call c).1.stateAt k = some st := by
        rw [(step_call s c).stateAt, not_not.mp now, Option.getD_none, held]
      exact ih (sound.step (step_call s c) room) kept rest later

/-- The tags used up so far: each once, and none held any longer. -/
structure UsedUp (s : Store) (used : List String) : Prop where
  nodup : used.Nodup
  retired : ∀ tag ∈ used, Retired s tag

/-- A call uses up a tag its key held, which was therefore not used up before, and retires it. -/
theorem UsedUp.call {s : Store} {used : List String} (sound : Sound s) (upTo : UsedUp s used)
    (c : Call) (room : Room s (c, (s.call c).2)) :
    UsedUp (s.call c).1 (used ++ (usedBy (c, (s.call c).2)).toList) := by
  have step := step_call s c
  rcases now : usedBy (c, (s.call c).2) with _ | tag
  · exact ⟨by simpa using upTo.nodup,
      fun tag held => (upTo.retired tag (by simpa using held)).step step room⟩
  · obtain ⟨held, changes⟩ := step.usedBy now
    obtain ⟨st, found, same⟩ := Option.map_eq_some_iff.mp held
    have fresh : tag ∉ used := fun old => (upTo.retired tag old).unheld c.key st found same
    have nodup : (used ++ [tag]).Nodup := by
      refine List.nodup_append.mpr ⟨upTo.nodup, by simp, ?_⟩
      rintro t old t' once
      rw [List.mem_singleton] at once
      subst once
      intro again
      exact fresh (again ▸ old)
    refine ⟨nodup, fun t mem => ?_⟩
    rcases List.mem_append.mp mem with old | new
    · exact (upTo.retired t old).step step room
    · rw [Option.mem_toList] at new
      cases new
      rw [← same]
      exact retired_of_step sound step room found changes

theorem UsedUp.run {s : Store} {used : List String} (sound : Sound s) (upTo : UsedUp s used)
    (cs : List Call) (fits : Fits s cs) : UsedUp (run s cs) (used ++ consumed (history s cs)) := by
  induction cs generalizing s used with
  | nil => simpa [history, consumed] using upTo
  | cons c cs ih =>
    obtain ⟨room, rest⟩ := fits.cons
    have step := ih (sound.step (step_call s c) room) (upTo.call sound c room) rest
    rcases now : usedBy (c, (s.call c).2) with _ | tag
    · simpa [history, consumed, now, List.filterMap_cons_none] using step
    · simpa [history, consumed, now, List.filterMap_cons_some] using step

/-! ## The guarantee -/

theorem fits_empty {cs : List Call} (few : (issued (history {} cs)).length < 2 ^ 64) :
    Fits {} cs := by
  simpa [Fits] using few

/-- What optimistic concurrency promises of the calls `cs` made on a fresh store, and of the
next call made after them. Tags are told apart while fewer than 2^64 writes went through. -/
structure Optimistic (cs : List Call) : Prop where
  /-- The next call is refused exactly when it names a tag its key does not hold. -/
  refused_iff : ∀ c, ((run {} cs).call c).2.isRefused = true ↔
    ¬ Matches ((run {} cs).stateAt c.key) c.expected
  refused_keeps : ∀ c, ((run {} cs).call c).2.isRefused = true → ((run {} cs).call c).1 = run {} cs
  /-- The count of writes is the number of writes that went through, modulo 2^64. -/
  count_wraps : (run {} cs).writes.toNat = (issued (history {} cs)).length % 2 ^ 64
  /-- No tag is handed out twice, whatever the keys. -/
  issued_nodup : (issued (history {} cs)).length < 2 ^ 64 → (issued (history {} cs)).Nodup
  /-- A read answers the last write of the key that went through, unless a clear of it went
  through later. -/
  read_last : ∀ typeName g,
    (run {} cs).read? typeName g = lastChange (typeName, g) (history {} cs) none
  /-- A tag lets at most one conditional write or clear through. -/
  consumed_nodup : (issued (history {} cs)).length < 2 ^ 64 → (consumed (history {} cs)).Nodup
  /-- A tag a key held stops matching for good once a later write or clear of that key goes
  through. -/
  stale_refused : ∀ pre post k st, cs = pre ++ post → (issued (history {} cs)).length < 2 ^ 64 →
    (run {} pre).stateAt k = some st → (∃ p ∈ history (run {} pre) post, leaves k p ≠ none) →
    ∀ c, c.expected = some st.etag → ((run {} cs).call c).2.isRefused = true

/-- Over any calls on a fresh store, tags decide every write and clear and, while the count of
writes does not wrap, are handed out once, are used up at most once, and never match again once
their key has changed. -/
theorem optimistic_concurrency (cs : List Call) : Optimistic cs where
  refused_iff c := (step_call _ c).isRefused_iff
  refused_keeps c refused := (step_call _ c).keeps_of_isRefused refused
  count_wraps := by simpa using writes_run {} cs
  issued_nodup few := (issued_history {} cs (fits_empty few)).1
  read_last typeName g := stateAt_run {} cs (typeName, g)
  consumed_nodup few := by
    have used := (UsedUp.run sound_empty ⟨List.nodup_nil, by simp⟩ cs (fits_empty few)).nodup
    simpa using used
  stale_refused pre post k st split few held changed c names := by
    subst split
    obtain ⟨before, after⟩ := (fits_empty few).split
    have retired := retired_of_changed (sound_empty.run pre before) held post after changed
    rw [run_append]
    exact retired.refuses names

end Store

end ActorSilo
