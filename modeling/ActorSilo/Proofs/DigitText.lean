/-! # The digits of a number

Numbers are written with `Nat.toDigits`: decimal in JSON text and in the port, scope and
octets of an endpoint, hexadecimal in the groups of an IPv6 address. Every reader of such
digits folds them left to right as `acc * base + value`. This module gives the three facts
those readers need: each written character is the digit of a value below the base
(`digitChar_of_mem_toDigits`), folding the digits back gives the number
(`foldl_toDigits`), and the first digit of a positive number is not a zero
(`head?_toDigits`).
-/

namespace ActorSilo

theorem digitChar_of_mem_toDigits {b n : Nat} {c : Char} (hb : 1 < b)
    (mem : c ∈ Nat.toDigits b n) : ∃ k < b, c = Nat.digitChar k := by
  induction n using Nat.base_induction b hb with
  | single m hm =>
    rw [Nat.toDigits_of_lt_base hm, List.mem_singleton] at mem
    exact ⟨m, hm, mem⟩
  | digit m k hk hm ih =>
    rw [← Nat.toDigits_append_toDigits hb hm hk, Nat.toDigits_of_lt_base hk, List.mem_append,
      List.mem_singleton] at mem
    rcases mem with earlier | last
    · exact ih earlier
    · exact ⟨k, hk, last⟩

/-- Any reader that gives each digit its value and folds left to right reads the number back. -/
theorem foldl_toDigits {b : Nat} (hb : 1 < b) (val : Char → Nat)
    (digit : ∀ k < b, val (Nat.digitChar k) = k) (n : Nat) :
    (Nat.toDigits b n).foldl (fun acc c => acc * b + val c) 0 = n := by
  induction n using Nat.base_induction b hb with
  | single m hm => simp [Nat.toDigits_of_lt_base hm, digit m hm]
  | digit m k hk hm ih =>
    rw [← Nat.toDigits_append_toDigits hb hm hk, List.foldl_append, ih, Nat.toDigits_of_lt_base hk]
    simp [digit k hk, Nat.mul_comm]

/-- A positive number is written without a leading zero. -/
theorem head?_toDigits {b n : Nat} (hb : 1 < b) (pos : 0 < n) :
    (Nat.toDigits b n).head? ≠ some '0' := by
  induction n using Nat.base_induction b hb with
  | single m hm =>
    rw [Nat.toDigits_of_lt_base hm]
    simpa using Nat.pos_iff_ne_zero.mp pos
  | digit m k hk hm ih =>
    -- the leading digit is that of `m`, written first
    rw [← Nat.toDigits_append_toDigits hb hm hk, List.head?_append]
    obtain ⟨c, cs, first⟩ := List.exists_cons_of_ne_nil (@Nat.toDigits_ne_nil m b)
    rw [first] at ih ⊢
    simpa using ih hm

end ActorSilo
