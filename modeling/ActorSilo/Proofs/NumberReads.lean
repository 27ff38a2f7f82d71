import ActorSilo.Proofs.StringReads
import ActorSilo.Proofs.DigitText

/-! # Reading back written numbers

A natural number is written in decimal, one byte per digit (`bytes_toString`). The reader
takes a first digit, refuses a leading zero before another digit, and then folds the
following digits into a 64-bit accumulator, switching to a float only when the next digit
would overflow. A number below `2^64` never overflows on the way: every value of the
accumulator is a prefix of its digits, so at most the number itself (`le_foldl_digits`).
What follows a value in compact text, the end, a comma or a closing bracket (`Ends`), is not
part of a number, so the number ends where its digits end (`returns_number`).
-/

namespace ActorSilo.Json

theorem digitChar_encoding : ∀ k < 10,
    String.utf8EncodeChar (Nat.digitChar k) = [(Nat.digitChar k).toNat.toUInt8] ∧
      (Nat.digitChar k).toNat.toUInt8.toNat = 48 + k ∧
      ((Nat.digitChar k).toNat.toUInt8 - 48).toNat = k := by
  decide

/-- The bytes of a decimal number: one per digit. -/
theorem bytes_toString (n : Nat) :
    bytes (toString n) = (Nat.toDigits 10 n).map (·.toNat.toUInt8) := by
  rw [Nat.toString_eq_ofList_toDigits, bytes_ofList]
  have digits : ∀ c ∈ Nat.toDigits 10 n, ∃ k < 10, c = Nat.digitChar k :=
    fun c mem => digitChar_of_mem_toDigits (by decide) mem
  generalize Nat.toDigits 10 n = cs at digits ⊢
  induction cs with
  | nil => rfl
  | cons c cs ih =>
    obtain ⟨k, small, rfl⟩ := digits _ List.mem_cons_self
    rw [List.flatMap_cons, (digitChar_encoding k small).1, List.map_cons,
      ih (fun c mem => digits c (List.mem_cons_of_mem _ mem))]
    rfl

theorem bytes_toString_head (n : Nat) :
    ∃ b bs, bytes (toString n) = b :: bs ∧ 48 ≤ b.toNat ∧ b.toNat ≤ 57 := by
  obtain ⟨c, cs, written⟩ := List.exists_cons_of_ne_nil (@Nat.toDigits_ne_nil n 10)
  obtain ⟨k, small, rfl⟩ := digitChar_of_mem_toDigits (show 1 < 10 by decide)
    (written ▸ List.mem_cons_self)
  refine ⟨_, _, by rw [bytes_toString, written, List.map_cons], ?_⟩
  rw [(digitChar_encoding k small).2.1]
  omega

namespace Reader

/-- What may follow a value in compact text: nothing, a comma or a closing bracket. -/
def Ends (more : List UInt8) : Prop := ∀ b ∈ more.head?, b = 44 ∨ b = 93 ∨ b = 125

theorem returns_peekOrZero_ends {r : Reader} {more : List UInt8} (h : r.rest = more)
    (ends : Ends more) : ∃ b, Returns peekOrZero r b r ∧ (b = 0 ∨ b = 44 ∨ b = 93 ∨ b = 125) := by
  rcases more with _ | ⟨b, bs⟩
  · exact ⟨0, returns_peekOrZero_nil h, .inl rfl⟩
  · exact ⟨b, returns_peekOrZero h, .inr (ends b rfl)⟩

theorem returns_numberTail {r : Reader} {more : List UInt8} (h : r.rest = more) (ends : Ends more)
    (acc : Nat) : Returns (numberTail true acc) r (.nat acc) r := by
  obtain ⟨b, peeked, stop⟩ := returns_peekOrZero_ends h ends
  unfold numberTail
  refine peeked.bind ?_
  rcases stop with rfl | rfl | rfl | rfl <;> exact returns_pure _ _

/-- The value the number reader gives a digit byte. -/
def byteValue (c : Char) : Nat := (c.toNat.toUInt8 - 48).toNat

theorem overflows_eq_false {acc d limit : Nat} (digit : d < 10) (within : acc * 10 + d ≤ limit) :
    overflows acc d limit = false := by
  simp only [overflows, Bool.and_eq_false_iff, decide_eq_false_iff_not, Bool.or_eq_false_iff]
  omega

theorem le_foldl_digits (ds : List Char) (acc : Nat) :
    acc ≤ ds.foldl (fun acc c => acc * 10 + byteValue c) acc := by
  induction ds generalizing acc with
  | nil => exact Nat.le_refl acc
  | cons c ds ih => exact Nat.le_trans (by omega) (ih (acc * 10 + byteValue c))

theorem returns_digits {ds : List Char} (digits : ∀ c ∈ ds, ∃ k < 10, c = Nat.digitChar k) :
    ∀ {acc fuel : Nat} {r : Reader} {more : List UInt8},
      r.rest = ds.map (·.toNat.toUInt8) ++ more → Ends more → ds.length ≤ fuel →
      ds.foldl (fun acc c => acc * 10 + byteValue c) acc ≤ u64Max →
      Returns (number.digits true acc fuel) r
        (.nat (ds.foldl (fun acc c => acc * 10 + byteValue c) acc)) (r.advance ds.length) := by
  induction ds with
  | nil =>
    intro acc fuel r more h ends _ _
    rcases fuel with _ | fuel
    · exact returns_numberTail h ends acc
    · obtain ⟨b, peeked, stop⟩ := returns_peekOrZero_ends h ends
      rw [number.digits]
      refine peeked.bind ?_
      rcases stop with rfl | rfl | rfl | rfl <;> exact returns_numberTail h ends acc
  | cons c ds ih =>
    intro acc fuel r more h ends enough fits
    obtain ⟨k, small, rfl⟩ := digits _ List.mem_cons_self
    obtain ⟨_, byte, value⟩ := digitChar_encoding k small
    have low : 48 ≤ (Nat.digitChar k).toNat.toUInt8 := by
      rw [UInt8.le_iff_toNat_le, byte]
      simp
    have high : (Nat.digitChar k).toNat.toUInt8 ≤ 57 := by
      rw [UInt8.le_iff_toNat_le, byte]
      simp
      omega
    obtain ⟨fuel, rfl⟩ : ∃ f, fuel = f + 1 := ⟨fuel - 1, by simp at enough; omega⟩
    rw [List.map_cons, List.cons_append] at h
    -- the accumulator after this digit is at most the whole number
    have step : acc * 10 + k ≤ u64Max := by
      have := le_foldl_digits ds (acc * 10 + byteValue (Nat.digitChar k))
      simp only [List.foldl_cons, byteValue, value] at fits this
      omega
    rw [number.digits]
    refine (returns_peekOrZero h).bind ?_
    simp only [low, high, and_self, if_true, value, overflows_eq_false small step,
      Bool.false_eq_true, if_false]
    refine (returns_eat r).bind ?_
    have later := @ih (fun c mem => digits c (List.mem_cons_of_mem _ mem)) (acc * 10 + k) fuel _ _
      (rest_advance_one h) ends (by simp at enough; omega) (by simpa [byteValue, value] using fits)
    rw [advance_advance] at later
    simpa [byteValue, value, Nat.add_comm] using later

/-- A number that fits in 64 bits reads back from its decimal digits. -/
theorem returns_number {n : Nat} (fits : n ≤ u64Max) {r : Reader} {more : List UInt8}
    (h : r.rest = bytes (toString n) ++ more) (ends : Ends more) :
    Returns (number true) r (.nat n) (r.advance (bytes (toString n)).length) := by
  have digits : ∀ c ∈ Nat.toDigits 10 n, ∃ k < 10, c = Nat.digitChar k :=
    fun c mem => digitChar_of_mem_toDigits (by decide) mem
  have folded := foldl_toDigits (by decide) byteValue
    (fun k small => (digitChar_encoding k small).2.2) n
  rw [bytes_toString] at h ⊢
  obtain ⟨c, ds, written⟩ := List.exists_cons_of_ne_nil (@Nat.toDigits_ne_nil n 10)
  rw [written] at h digits folded ⊢
  obtain ⟨k, small, rfl⟩ := digits _ List.mem_cons_self
  obtain ⟨_, byte, value⟩ := digitChar_encoding k small
  rw [List.map_cons, List.cons_append] at h
  unfold number
  refine (returns_next? h).bind ?_
  rcases Nat.eq_zero_or_pos n with rfl | pos
  · -- zero is the one number written with a leading zero, and it is the whole number
    obtain ⟨zero, only⟩ : k = 0 ∧ ds = [] := by simpa using written
    subst zero only
    obtain ⟨b, peeked, stop⟩ := returns_peekOrZero_ends (rest_advance_one h) ends
    simp only [show (Nat.digitChar 0).toNat.toUInt8 = 48 from rfl, beq_self_eq_true, if_true]
    refine peeked.bind ?_
    rcases stop with rfl | rfl | rfl | rfl <;> exact returns_numberTail (rest_advance_one h) ends 0
  · -- a positive number: its first digit is not a zero, and the loop reads the others
    have first : k ≠ 0 := fun zero => head?_toDigits (show 1 < 10 by decide) pos (by simp [written, zero])
    have notZero : ((Nat.digitChar k).toNat.toUInt8 == 48) = false := by
      rw [beq_eq_false_iff_ne]
      intro same
      have := congrArg UInt8.toNat same
      rw [byte] at this
      simp at this
      omega
    have leading : 49 ≤ (Nat.digitChar k).toNat.toUInt8 ∧ (Nat.digitChar k).toNat.toUInt8 ≤ 57 := by
      rw [UInt8.le_iff_toNat_le, UInt8.le_iff_toNat_le, byte]
      simp
      omega
    simp only [notZero, Bool.false_eq_true, if_false, leading, and_self, if_true, value]
    refine (returns_get _).bind ?_
    have rest := rest_advance_one h
    have enough : ds.length ≤ (r.advance 1).src.size - (r.advance 1).pos + 1 := by
      have total := length_rest (r.advance 1)
      rw [rest, List.length_append, List.length_map] at total
      omega
    have firstValue : byteValue (Nat.digitChar k) = k := value
    rw [List.foldl_cons, Nat.zero_mul, Nat.zero_add, firstValue] at folded
    have read := @returns_digits ds (fun c mem => digits c (List.mem_cons_of_mem _ mem)) k _ _ _
      rest ends enough (folded ▸ fits)
    rw [folded, advance_advance] at read
    simpa [Nat.add_comm] using read

end Reader

end ActorSilo.Json
