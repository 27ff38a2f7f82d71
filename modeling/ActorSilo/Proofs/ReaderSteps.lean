import ActorSilo.Json.Decode

/-! # Reading JSON text, step by step

A reader of JSON text runs in `ReadM`: it may fail, and it moves a position through the bytes
of the text. This module describes the runs that succeed. `Reader.Returns x r v r'` says that
from the reader `r` the computation `x` gives `v` and leaves the reader at `r'`; it composes
along `>>=` (`Returns.bind`), so a reader built with `do` is followed one step after another.

What a reader looks at is the bytes from its position on (`Reader.rest`). Each primitive of the
reader gets one lemma saying what it returns and how far it moves for the bytes it is shown:
peeking, eating a byte, skipping blanks (which, before a byte that is not a blank, stays where
it is), literal identifiers, brackets and the separators between elements and members.
-/

namespace ActorSilo.Json

namespace Reader

def rest (r : Reader) : List UInt8 := r.src.data.toList.drop r.pos

/-- The reader moved on by `n` bytes. -/
def advance (r : Reader) (n : Nat) : Reader := { r with pos := r.pos + n }

/-- From the reader `r`, the computation `x` gives `v` and leaves the reader at `r'`. -/
def Returns {α : Type} (x : ReadM α) (r : Reader) (v : α) (r' : Reader) : Prop :=
  x.run.run r = (.ok v, r')

section Runs

variable {α β : Type} {r r₁ r₂ : Reader}

theorem Returns.bind {x : ReadM α} {f : α → ReadM β} {a : α} {b : β}
    (first : Returns x r a r₁) (second : Returns (f a) r₁ b r₂) : Returns (x >>= f) r b r₂ := by
  unfold Returns at *
  simp only [ExceptT.run_bind, StateT.run_bind, first]
  exact second

theorem Returns.of_bind {x : ReadM α} {f : α → ReadM β} {b : β} (both : Returns (x >>= f) r b r₂) :
    ∃ a r₁, Returns x r a r₁ ∧ Returns (f a) r₁ b r₂ := by
  unfold Returns at *
  simp only [ExceptT.run_bind, StateT.run_bind] at both
  rcases first : (ExceptT.run x).run r with ⟨_ | a, r₁⟩
  · rw [first] at both
    cases both
  · rw [first] at both
    exact ⟨a, r₁, rfl, both⟩

theorem returns_pure (a : α) (r : Reader) : Returns (pure a : ReadM α) r a r := rfl

theorem returns_pure_iff {a v : α} : Returns (pure a : ReadM α) r v r₁ ↔ v = a ∧ r₁ = r := by
  unfold Returns
  constructor
  · intro ran
    cases ran
    exact ⟨rfl, rfl⟩
  · rintro ⟨rfl, rfl⟩
    rfl

theorem not_returns_throw {e : Error} {v : α} : ¬ Returns (throw e : ReadM α) r v r₁ := by
  unfold Returns
  intro ran
  cases ran

theorem returns_get (r : Reader) : Returns (get : ReadM Reader) r r r := rfl

theorem returns_set (r r' : Reader) : Returns (set r' : ReadM Unit) r () r' := rfl

theorem returns_modify (f : Reader → Reader) (r : Reader) :
    Returns (modify f : ReadM Unit) r () (f r) := rfl

theorem Returns.map {x : ReadM α} {f : α → β} {a : α} (ran : Returns x r a r₁) :
    Returns (f <$> x) r (f a) r₁ := by
  rw [← bind_pure_comp]
  exact ran.bind (returns_pure _ _)

theorem Returns.tryCatch {x : ReadM α} {handler : Error → ReadM α} {v : α}
    (ran : Returns x r v r₁) : Returns (tryCatch x handler) r v r₁ := by
  unfold Returns at *
  simp only [MonadExcept.tryCatch, tryCatchThe, MonadExceptOf.tryCatch, ExceptT.tryCatch,
    ExceptT.run_mk, StateT.run_bind]
  rw [show StateT.run x r = (Except.ok v, r₁) from ran]
  rfl

theorem Returns.placing {x : ReadM α} {v : α} (ran : Returns x r v r₁) :
    Returns (Decode.placing x) r v r₁ :=
  ran.tryCatch

theorem returns_check {e : Except Error α} {v : α} (ok : e = .ok v) (r : Reader) :
    Returns (Decode.check e) r v r := by
  subst ok
  exact returns_pure v r

end Runs

/-! ## Bytes -/

theorem get!_eq (b : ByteArray) (i : Nat) : b.get! i = b.data[i]! := by
  cases b
  rfl

theorem peekByte_eq (r : Reader) :
    (if r.pos < r.src.size then some (r.src.get! r.pos) else none) = r.rest.head? := by
  unfold rest
  rw [List.head?_drop, get!_eq]
  obtain ⟨data⟩ := r.src
  by_cases inside : r.pos < data.size
  · simp [ByteArray.size, inside]
  · simp [ByteArray.size, inside]

theorem byte_of_rest {r : Reader} {b : UInt8} {bs : List UInt8} (h : r.rest = b :: bs) :
    r.pos < r.src.size ∧ r.src.get! r.pos = b := by
  have peeked := peekByte_eq r
  rw [h] at peeked
  split at peeked
  · exact ⟨‹_›, Option.some.inj peeked⟩
  · cases peeked

theorem not_lt_size_of_rest {r : Reader} (h : r.rest = []) : ¬ r.pos < r.src.size := by
  have peeked := peekByte_eq r
  rw [h] at peeked
  split at peeked
  · cases peeked
  · assumption

@[simp] theorem advance_zero (r : Reader) : r.advance 0 = r := rfl

theorem advance_advance (r : Reader) (m n : Nat) : (r.advance m).advance n = r.advance (m + n) := by
  simp [advance, Nat.add_assoc]

@[simp] theorem advance_depth (r : Reader) (n : Nat) : (r.advance n).depth = r.depth := rfl

theorem rest_advance {r : Reader} {bs more : List UInt8} (h : r.rest = bs ++ more) :
    (r.advance bs.length).rest = more := by
  unfold rest advance at *
  simp only
  rw [← List.drop_drop, h, List.drop_left]

theorem rest_advance_one {r : Reader} {b : UInt8} {bs : List UInt8} (h : r.rest = b :: bs) :
    (r.advance 1).rest = bs :=
  rest_advance (show r.rest = [b] ++ bs from h)

def NonBlank (b : UInt8) : Prop := b ≠ 32 ∧ b ≠ 10 ∧ b ≠ 9 ∧ b ≠ 13

instance (b : UInt8) : Decidable (NonBlank b) := inferInstanceAs (Decidable (_ ∧ _))

/-- The reader stands at a byte that is not a blank, or at the end. -/
def Solid (r : Reader) : Prop := ∀ b ∈ r.rest.head?, NonBlank b

theorem solid_of_rest {r : Reader} {b : UInt8} {bs : List UInt8} (h : r.rest = b :: bs)
    (solid : NonBlank b) : Solid r := by
  intro c held
  rw [h, List.head?_cons, Option.mem_def, Option.some.injEq] at held
  exact held ▸ solid

theorem solid_of_rest_nil {r : Reader} (h : r.rest = []) : Solid r := by
  intro c held
  rw [h] at held
  cases held

/-! ## Primitives -/

theorem returns_peek? (r : Reader) : Returns peek? r r.rest.head? r := by
  unfold peek?
  refine (returns_get r).bind ?_
  rw [peekByte_eq]
  exact returns_pure _ r

theorem returns_peekOrZero {r : Reader} {b : UInt8} {bs : List UInt8} (h : r.rest = b :: bs) :
    Returns peekOrZero r b r := by
  unfold peekOrZero
  refine (returns_peek? r).bind ?_
  rw [h]
  exact returns_pure _ r

theorem returns_peekOrZero_nil {r : Reader} (h : r.rest = []) : Returns peekOrZero r 0 r := by
  unfold peekOrZero
  refine (returns_peek? r).bind ?_
  rw [h]
  exact returns_pure _ r

theorem returns_eat (r : Reader) : Returns eat r () (r.advance 1) := returns_modify _ r

theorem returns_next? {r : Reader} {b : UInt8} {bs : List UInt8} (h : r.rest = b :: bs) :
    Returns next? r (some b) (r.advance 1) := by
  unfold next?
  refine (returns_peek? r).bind ?_
  rw [h]
  exact (returns_eat r).bind (returns_pure _ _)

theorem skipBlanks_go_stays {r : Reader} (solid : Solid r) (fuel : Nat) :
    skipBlanks.go r r.pos (fuel + 1) = r.pos := by
  rcases next : r.rest with _ | ⟨b, bs⟩
  · simp [skipBlanks.go, not_lt_size_of_rest next]
  · obtain ⟨inside, byte⟩ := byte_of_rest next
    obtain ⟨h32, h10, h9, h13⟩ := solid b (by simp [next])
    simp [skipBlanks.go, inside, byte, h32, h10, h9, h13]

theorem returns_skipBlanks {r : Reader} (solid : Solid r) :
    Returns skipBlanks r r.rest.head? r := by
  unfold skipBlanks
  refine (returns_get r).bind ?_
  simp only [skipBlanks_go_stays solid]
  exact (returns_set r r).bind (returns_peek? r)

theorem returns_forIn_bytes {l more : List UInt8} (body : UInt8 → PUnit → ReadM (ForInStep PUnit))
    (step : ∀ (r : Reader) b bs, r.rest = b :: bs → Returns (body b ⟨⟩) r (.yield ⟨⟩) (r.advance 1))
    {r : Reader} (h : r.rest = l ++ more) :
    Returns (forIn l ⟨⟩ body) r ⟨⟩ (r.advance l.length) := by
  induction l generalizing r with
  | nil => exact returns_pure _ r
  | cons b l ih =>
    rw [List.forIn_cons]
    refine (step r b (l ++ more) h).bind ?_
    have later := ih (rest_advance (show r.rest = [b] ++ (l ++ more) from h))
    rw [advance_advance] at later
    simpa [Nat.add_comm] using later

theorem returns_expectIdent {l more : List UInt8} {r : Reader} (h : r.rest = l ++ more) :
    Returns (expectIdent l) r () (r.advance l.length) := by
  unfold expectIdent
  refine (returns_forIn_bytes _ ?_ h).bind (returns_pure _ _)
  intro r b bs next
  refine (returns_next? next).bind ?_
  simp only [bne_self_eq_false, Bool.false_eq_true, if_false]
  exact returns_pure _ _

/-! ## Brackets and separators -/

theorem returns_open_ {r : Reader} (room : 2 ≤ r.depth) :
    Returns open_ r () { r.advance 1 with depth := r.depth - 1 } := by
  unfold open_
  refine (returns_get r).bind ?_
  rw [if_neg (by omega)]
  exact returns_set r _

theorem returns_close (r : Reader) : Returns close r () { r with depth := r.depth + 1 } :=
  returns_modify _ r

theorem returns_hasNextElement_first {r : Reader} {b : UInt8} {bs : List UInt8}
    (h : r.rest = b :: bs) (solid : NonBlank b) (notEnd : b ≠ 93) :
    Returns (hasNextElement true) r true r := by
  unfold hasNextElement
  refine (returns_skipBlanks (solid_of_rest h solid)).bind ?_
  rw [h]
  simp only [List.head?_cons, beq_iff_eq, notEnd, if_false, if_true]
  exact returns_pure _ r

theorem returns_hasNextElement_comma {r : Reader} {b : UInt8} {bs : List UInt8}
    (h : r.rest = 44 :: b :: bs) (solid : NonBlank b) (notEnd : b ≠ 93) :
    Returns (hasNextElement false) r true (r.advance 1) := by
  unfold hasNextElement
  refine (returns_skipBlanks (solid_of_rest h (by decide))).bind ?_
  rw [h]
  simp only [List.head?_cons]
  refine (returns_eat r).bind ?_
  refine (returns_skipBlanks (solid_of_rest (rest_advance_one h) solid)).bind ?_
  rw [rest_advance_one h]
  simp only [List.head?_cons]
  exact returns_pure _ _

theorem returns_hasNextElement_end {r : Reader} {bs : List UInt8} (h : r.rest = 93 :: bs)
    (first : Bool) : Returns (hasNextElement first) r false r := by
  unfold hasNextElement
  refine (returns_skipBlanks (solid_of_rest h (by decide))).bind ?_
  rw [h]
  exact returns_pure _ r

theorem returns_endList {r : Reader} {bs : List UInt8} (h : r.rest = 93 :: bs) :
    Returns endList r () (r.advance 1) := by
  unfold endList
  refine (returns_skipBlanks (solid_of_rest h (by decide))).bind ?_
  rw [h]
  exact returns_eat r

theorem returns_hasNextKey_first {r : Reader} {bs : List UInt8} (h : r.rest = 34 :: bs) :
    Returns (hasNextKey true) r true r := by
  unfold hasNextKey
  refine (returns_skipBlanks (solid_of_rest h (by decide))).bind ?_
  rw [h]
  exact returns_pure _ r

theorem returns_hasNextKey_comma {r : Reader} {bs : List UInt8} (h : r.rest = 44 :: 34 :: bs) :
    Returns (hasNextKey false) r true (r.advance 1) := by
  unfold hasNextKey
  refine (returns_skipBlanks (solid_of_rest h (by decide))).bind ?_
  rw [h]
  simp only [List.head?_cons]
  refine (returns_eat r).bind ?_
  refine (returns_skipBlanks (solid_of_rest (rest_advance_one h) (by decide))).bind ?_
  rw [rest_advance_one h]
  exact returns_pure _ _

theorem returns_hasNextKey_end {r : Reader} {bs : List UInt8} (h : r.rest = 125 :: bs)
    (first : Bool) : Returns (hasNextKey first) r false r := by
  unfold hasNextKey
  refine (returns_skipBlanks (solid_of_rest h (by decide))).bind ?_
  rw [h]
  exact returns_pure _ r

theorem returns_colon {r : Reader} {bs : List UInt8} (h : r.rest = 58 :: bs) :
    Returns colon r () (r.advance 1) := by
  unfold colon
  refine (returns_skipBlanks (solid_of_rest h (by decide))).bind ?_
  rw [h]
  exact returns_eat r

theorem returns_endObject {r : Reader} {bs : List UInt8} (h : r.rest = 125 :: bs) :
    Returns endObject r () (r.advance 1) := by
  unfold endObject
  refine (returns_skipBlanks (solid_of_rest h (by decide))).bind ?_
  rw [h]
  exact returns_eat r

theorem returns_finish {r : Reader} (h : r.rest = []) : Returns finish r () r := by
  unfold finish
  refine (returns_skipBlanks (solid_of_rest_nil h)).bind ?_
  rw [h]
  exact returns_pure _ r

end Reader

end ActorSilo.Json
