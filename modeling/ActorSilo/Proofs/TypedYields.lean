import Mathlib
import ActorSilo.Proofs.ReaderSteps
import ActorSilo.Json.Decode

/-! # What typed readers can give

`Decode.Yields x P` says that every value the reader `x` gives satisfies `P`, the converse view
to `Decode.Reads`. Paths that end in `throw` give nothing, so the lemmas lift facts through the
combinators from their checked conversions: numbers and strings, optional values, arrays,
bracketed bodies, records under an invariant kept by every field (`yields_record`), tagged
choices, and whole texts (`Yields.run`).
-/

namespace ActorSilo.Json

namespace Reader

section Runs

variable {α : Type} {r r₁ : Reader}

theorem Returns.of_tryCatch {x : ReadM α} {handler : Error → ReadM α} {v : α}
    (ran : Returns (MonadExcept.tryCatch x handler) r v r₁) :
    Returns x r v r₁ ∨ ∃ e r₂, x.run.run r = (.error e, r₂) ∧ Returns (handler e) r₂ v r₁ := by
  unfold Returns at *
  simp only [MonadExcept.tryCatch, tryCatchThe, MonadExceptOf.tryCatch, ExceptT.tryCatch,
    ExceptT.run_mk, StateT.run_bind] at ran
  rcases first : StateT.run x r with ⟨_ | a, r₂⟩
  · rw [first] at ran
    exact Or.inr ⟨_, r₂, first, ran⟩
  · rw [first] at ran
    exact Or.inl (first.trans ran)

end Runs

end Reader

namespace Decode

open Reader

/-- Every value that `x` gives, from any reader, satisfies `P`. -/
def Yields {α : Type} (x : ReadM α) (P : α → Prop) : Prop :=
  ∀ r v r', Returns x r v r' → P v

section Yields

variable {α β : Type} {P Q : α → Prop}

theorem yields_any (x : ReadM α) : Yields x fun _ => True := fun _ _ _ _ => trivial

theorem yields_pure {a : α} (holds : P a) : Yields (pure a) P := by
  intro r v r' ran
  rw [(returns_pure_iff.mp ran).1]
  exact holds

theorem yields_throw (e : Error) : Yields (throw e : ReadM α) P :=
  fun _ _ _ ran => absurd ran not_returns_throw

theorem Yields.mono {x : ReadM α} (y : Yields x P) (weaker : ∀ a, P a → Q a) : Yields x Q :=
  fun r v r' ran => weaker v (y r v r' ran)

theorem Yields.bind {x : ReadM α} {f : α → ReadM β} {R : β → Prop} (first : Yields x P)
    (next : ∀ a, P a → Yields (f a) R) : Yields (x >>= f) R := by
  intro r v r' ran
  obtain ⟨a, r₁, ranX, ranF⟩ := Returns.of_bind ran
  exact next a (first r a r₁ ranX) r₁ v r' ranF

theorem Yields.after {x : ReadM α} {f : α → ReadM β} {R : β → Prop}
    (next : ∀ a, Yields (f a) R) : Yields (x >>= f) R :=
  (yields_any x).bind fun a _ => next a

theorem Yields.map {x : ReadM α} {f : α → β} {R : β → Prop} (y : Yields x fun a => R (f a)) :
    Yields (f <$> x) R := by
  rw [← bind_pure_comp]
  exact y.bind fun a holds => yields_pure holds

theorem Yields.tryCatch {x : ReadM α} {handler : Error → ReadM α} (y : Yields x P)
    (caught : ∀ e, Yields (handler e) P) : Yields (tryCatch x handler) P := by
  intro r v r' ran
  rcases Returns.of_tryCatch ran with ranX | ⟨e, r₂, _, ranH⟩
  · exact y r v r' ranX
  · exact caught e r₂ v r' ranH

theorem Yields.placing {x : ReadM α} (y : Yields x P) : Yields (placing x) P :=
  y.tryCatch fun _ => Yields.after fun e => yields_throw e

theorem yields_failAhead (c : SyntaxCode) : Yields (failAhead c : ReadM α) P :=
  Yields.after fun e => yields_throw e

theorem yields_fail (c : SyntaxCode) : Yields (fail c : ReadM α) P :=
  Yields.after fun e => yields_throw e

theorem yields_check (e : Except Error α) : Yields (check e) fun v => e = .ok v := by
  cases e with
  | error e => exact yields_throw e
  | ok a => exact yields_pure rfl

end Yields

section Readers

variable {α : Type}

theorem yields_numberWith {expected : String} {visit : Number → Except Error α} :
    Yields (numberWith expected visit) fun v => ∃ n, visit n = .ok v := by
  have visited : ∀ n, Yields (check (visit n)) fun v => ∃ n, visit n = .ok v :=
    fun n => (yields_check _).mono fun v ok => ⟨n, ok⟩
  unfold numberWith
  refine Yields.placing (Yields.after fun b => ?_)
  split
  · exact yields_failAhead _
  · split
    · exact Yields.after fun _ => Yields.after visited
    · split
      · exact Yields.after visited
      · exact Yields.after fun e => yields_throw e

theorem yields_unsigned {bits : Nat} {name : String} :
    Yields (unsigned bits name) fun n => n < 2 ^ bits := by
  refine yields_numberWith.mono fun v ⟨n, ok⟩ => ?_
  cases n with
  | nat n =>
    simp only at ok
    split at ok
    · cases ok
      assumption
    · cases ok
  | neg i => cases ok
  | float x => cases ok

theorem yields_stringWith {expected : String} {visit : String → Except Error α} :
    Yields (stringWith expected visit) fun v => ∃ s, visit s = .ok v := by
  unfold stringWith
  refine Yields.placing (Yields.after fun b => ?_)
  split
  · exact yields_failAhead _
  · split
    · exact Yields.after fun _ => Yields.after fun s => (yields_check _).mono fun v ok => ⟨s, ok⟩
    · exact Yields.after fun e => yields_throw e

theorem Yields.option {x : ReadM α} {P : α → Prop} (y : Yields x P) :
    Yields (Decode.option x) fun o => ∀ a ∈ o, P a := by
  unfold Decode.option
  refine Yields.after fun b => ?_
  split
  · exact Yields.after fun _ => Yields.after fun _ => yields_pure fun a held => by cases held
  · exact Yields.map (y.mono fun a holds b held => by cases held; exact holds)

theorem Yields.bracketed {body : ReadM α} {P : α → Prop} (y : Yields body P)
    (closing : ReadM Unit) : Yields (bracketed body closing) P := by
  unfold Decode.bracketed
  have caught : Yields (MonadExcept.tryCatch (Sum.inl <$> body) fun e => pure (Sum.inr e))
      fun (res : α ⊕ Error) => ∀ v, res = .inl v → P v :=
    Yields.tryCatch (Yields.map (y.mono fun v holds w same => by cases same; exact holds))
      fun e => yields_pure fun v same => by cases same
  refine Yields.after fun _ => caught.bind fun res holds => ?_
  split
  · exact Yields.after fun _ => Yields.after fun _ => yields_pure (holds _ rfl)
  · exact Yields.after fun _ => yields_throw _

theorem yields_items {item : ReadM α} {P : α → Prop} (y : Yields item P) :
    ∀ fuel first (acc : List α), (∀ a ∈ acc, P a) →
      Yields (seq.items item first acc fuel) fun l => ∀ a ∈ l, P a := by
  intro fuel
  induction fuel with
  | zero => exact fun first acc before => yields_pure before
  | succ fuel ih =>
    intro first acc before
    unfold seq.items
    refine Yields.after fun more => ?_
    split
    · refine y.bind fun v holds => ih false (acc ++ [v]) ?_
      simp only [List.mem_append, List.mem_singleton]
      rintro a (old | rfl)
      · exact before a old
      · exact holds
    · exact yields_pure before

theorem Yields.seq {item : ReadM α} {P : α → Prop} (y : Yields item P) :
    Yields (Decode.seq item) fun l => ∀ a ∈ l, P a := by
  unfold Decode.seq
  refine Yields.placing (Yields.after fun b => ?_)
  split
  · exact yields_failAhead _
  · split
    · exact Yields.after fun r =>
        Yields.bracketed (yields_items y _ true [] fun a held => by cases held) _
    · exact Yields.after fun e => yields_throw e

end Readers

section Records

variable {S α : Type} {fields : List (Field S)} {I : S → Prop}

theorem yields_members {strict : Option (List String)}
    (step : ∀ f ∈ fields, ∀ s, I s → Yields (f.read s) I) :
    ∀ fuel first seen s, I s →
      Yields (record.members fields strict first seen s fuel) fun p => I p.1 := by
  intro fuel
  induction fuel with
  | zero => exact fun first seen s holds => yields_pure holds
  | succ fuel ih =>
    intro first seen s holds
    unfold record.members
    refine Yields.after fun more => ?_
    split
    · refine Yields.after fun k => ?_
      split
      · rename_i f found
        have mem : f ∈ fields := List.mem_of_find?_eq_some found
        dsimp only
        split
        · exact yields_throw _
        · exact Yields.after fun _ => (step f mem s holds).bind fun s' kept => ih false _ s' kept
      · dsimp only
        split
        · exact yields_throw _
        · exact Yields.after fun _ => Yields.after fun _ => ih false seen s holds
    · exact yields_pure holds

theorem yields_elements :
    ∀ (fs : List (Field S)), (∀ f ∈ fs, ∀ s, I s → Yields (f.read s) I) →
      ∀ first s n, I s → Yields (record.elements first fs s n) fun p => I p.1 := by
  intro fs
  induction fs with
  | nil => exact fun _ first s n holds => yields_pure holds
  | cons f fs ih =>
    intro step first s n holds
    unfold record.elements
    refine Yields.after fun more => ?_
    split
    · exact (step f List.mem_cons_self s holds).bind fun s' kept =>
        ih (fun g held => step g (List.mem_cons_of_mem f held)) false s' (n + 1) kept
    · exact yields_pure holds

/-- Every record read satisfies `P` when the invariant holds of the start, every field's
step keeps it, and `finish` turns a partial record that keeps it into a value satisfying
`P`. -/
theorem yields_record {expected : String} {init : S} {finish : S → Given → Except Error α}
    {strict : Option (List String)} {P : α → Prop} (start : I init)
    (step : ∀ f ∈ fields, ∀ s, I s → Yields (f.read s) I)
    (finished : ∀ s g v, I s → finish s g = .ok v → P v) :
    Yields (record expected fields init finish strict) P := by
  unfold record
  refine Yields.placing (Yields.after fun b => ?_)
  split
  · exact yields_failAhead _
  · split
    · refine Yields.after fun r => ?_
      refine (Yields.bracketed (yields_members step _ true [] init start) _).bind fun p kept => ?_
      obtain ⟨s, seen⟩ := p
      exact (yields_check _).mono fun v ok => finished s _ v kept ok
    · split
      · refine (Yields.bracketed (yields_elements fields step true init 0 start) _).bind
          fun p kept => ?_
        obtain ⟨s, n⟩ := p
        exact (yields_check _).mono fun v ok => finished s _ v kept ok
      · exact Yields.after fun e => yields_throw e

end Records

section Variants

variable {α : Type}

def Choice.Gives (P : α → Prop) : Choice α → Prop
  | .plain _ v => P v
  | .wrapped _ read => Yields read P
  | .fields _ read => Yields read P

theorem yields_choiceName {choices : List (Choice α)} :
    Yields (choiceName choices) (· ∈ choices) := by
  refine yields_stringWith.mono fun c ⟨name, ok⟩ => ?_
  split at ok
  · cases ok
    exact List.mem_of_find?_eq_some ‹_›
  · cases ok

/-- A tagged value satisfies `P` when every choice gives values that do. -/
theorem yields_variant {choices : List (Choice α)} {P : α → Prop}
    (each : ∀ c ∈ choices, c.Gives P) : Yields (variant choices) P := by
  unfold variant
  refine Yields.after fun b => ?_
  split
  · exact yields_failAhead _
  · split
    · refine Yields.after fun _ => yields_choiceName.bind fun c mem => Yields.after fun _ => ?_
      have content := each c mem
      dsimp only
      -- every choice's content is followed by the same closing brace
      cases c
      case' plain name v =>
        refine Yields.after fun _ => (yields_pure (P := P) content).bind fun v holds => ?_
      case' wrapped name read => refine Yields.bind (P := P) content fun v holds => ?_
      case' fields name read => refine Yields.bind (P := P) content fun v holds => ?_
      all_goals
        refine Yields.after fun _ => Yields.after fun b => ?_
        split
        · exact Yields.after fun _ => yields_pure holds
        · exact yields_fail _
        · exact yields_fail _
    · split
      · refine yields_choiceName.bind fun c mem => ?_
        have content := each c mem
        cases c with
        | plain name v => exact yields_pure content
        | wrapped name read => exact yields_throw _
        | fields name read => exact yields_throw _
      · exact yields_failAhead _

end Variants

section Runs

variable {α : Type}

theorem eq_of_require {g : Given} {expected : String} {needed : List String} {total : Nat}
    {s v : α} (ok : (do g.require expected needed total; pure s : Except Error α) = .ok v) :
    v = s := by
  cases required : g.require expected needed total with
  | error e =>
    rw [required] at ok
    cases ok
  | ok u =>
    rw [required] at ok
    cases ok
    rfl

theorem returns_of_run {x : ReadM α} {r : Reader} {v : α} (ok : (x.run.run r).1 = .ok v) :
    Returns x r v (x.run.run r).2 := by
  unfold Returns
  rw [← ok]
  rfl

/-- A whole text read as a value gives a value that every run of the reader gives. -/
theorem Yields.run {x : ReadM α} {P : α → Prop} (y : Yields x P) {text : String} {v : α}
    (ok : Decode.run x text = .ok v) : P v :=
  (y.bind fun _ holds => Yields.after fun _ => yields_pure holds) _ v _ (returns_of_run ok)

end Runs

end Decode

end ActorSilo.Json
