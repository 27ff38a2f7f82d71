import Mathlib
import ActorSilo.Proofs.DigitText
import ActorSilo.Endpoint

/-! # Endpoint text reads back

The text of an endpoint whose numbers fit their widths reads back as the endpoint
(`Endpoint.parse?_render`), and every endpoint read from a text fits
(`Endpoint.parse?_fits`).

Reading is a chain of scans over characters. The digits of a number, followed by a
character that is no digit, read back as the number (`number_toDigits`). A run of IPv6
groups reads back as itself up to the first place where neither a group nor a dotted
address starts (`Halts`), and a hexadecimal group is never taken for the start of a dotted
address (`ipv4_toDigits_none`). Compressed addresses read back because the run of zero
groups that `zeroRun` finds is one (`Host.zeroRun_in`).
-/

namespace ActorSilo

/-- A host whose numbers fit their widths: four octets, or eight 16-bit groups and a
32-bit scope. -/
def Host.Fits : Host → Prop
  | .v4 os => os.length = 4 ∧ ∀ o ∈ os, o < 256
  | .v6 gs scope => gs.length = 8 ∧ (∀ g ∈ gs, g < 65536) ∧ scope < 2 ^ 32

/-- An endpoint whose host fits and whose port is below `2^16`. -/
def Endpoint.Fits (e : Endpoint) : Prop := e.host.Fits ∧ e.port < 65536

theorem foldl_prefix_invariant {α β : Type} (f : β → α → β) (P : List α → β → Prop)
    (step : ∀ l acc a, P l acc → P (l ++ [a]) (f acc a)) (xs : List α) {acc : β}
    (init : P [] acc) : P xs (xs.foldl f acc) := by
  suffices along : ∀ l acc, P l acc → P (l ++ xs) (xs.foldl f acc) from along [] acc init
  induction xs with
  | nil => simp
  | cons x xs ih =>
    intro l acc holds
    simpa using ih (l ++ [x]) (f acc x) (step l acc x holds)

namespace Endpoint

/-! ## Numbers -/

theorem digitValue?_digitChar : ∀ k < 16,
    digitValue? 16 (Nat.digitChar k) = some k ∧ (k < 10 → digitValue? 10 (Nat.digitChar k) = some k) := by
  decide

theorem length_toDigits_of_leading_zero {b n : Nat} (hb : 1 < b)
    (zero : (Nat.toDigits b n).head? = some '0') : (Nat.toDigits b n).length ≤ 1 := by
  rcases Nat.eq_zero_or_pos n with rfl | pos
  · simp [Nat.toDigits_of_lt_base (show 0 < b by omega)]
  · exact absurd zero (head?_toDigits hb pos)

/-- The digits of a number in base 10 or 16, followed by what is no digit of the base, read
back as the number when it is below the limit and has no more digits than allowed. -/
theorem number_toDigits {radix n limit : Nat} {maxDigits : Option Nat} {zeroPrefix : Bool}
    {rest : List Char} (radixes : radix = 10 ∨ radix = 16) (fits : n < limit)
    (short : ∀ m ∈ maxDigits, (Nat.toDigits radix n).length ≤ m)
    (ends : ∀ c ∈ rest.head?, digitValue? radix c = none) :
    number radix maxDigits zeroPrefix limit (Nat.toDigits radix n ++ rest) = some (n, rest) := by
  have digit : ∀ k < radix, digitValue? radix (Nat.digitChar k) = some k := by
    intro k small
    rcases radixes with rfl | rfl
    · exact (digitValue?_digitChar k (by omega)).2 small
    · exact (digitValue?_digitChar k small).1
  have base : 1 < radix := by omega
  have allDigits : ∀ c ∈ Nat.toDigits radix n, (digitValue? radix c).isSome = true := by
    intro c mem
    obtain ⟨k, small, rfl⟩ := digitChar_of_mem_toDigits base mem
    simp [digit k small]
  have restStops : rest.takeWhile (fun c => (digitValue? radix c).isSome) = [] ∧
      rest.dropWhile (fun c => (digitValue? radix c).isSome) = rest := by
    cases rest with
    | nil => simp
    | cons c rest => simp [ends c rfl]
  have value : (Nat.toDigits radix n).foldl
      (fun acc c => acc * radix + (digitValue? radix c).getD 0) 0 = n :=
    foldl_toDigits base _ (fun k small => by simp [digit k small]) n
  have notLong : maxDigits.any (· < (Nat.toDigits radix n).length) = false := by
    cases maxDigits with
    | none => rfl
    | some m => simpa using short m rfl
  simp only [number, List.takeWhile_append_of_pos allDigits, List.dropWhile_append_of_pos allDigits,
    restStops, List.append_nil, value, notLong]
  simpa [fits] using fun (_ : zeroPrefix = false) => length_toDigits_of_leading_zero base

theorem number_eq_some {radix limit : Nat} {maxDigits : Option Nat} {zeroPrefix : Bool}
    {cs r : List Char} {v : Nat} (read : number radix maxDigits zeroPrefix limit cs = some (v, r)) :
    v < limit ∧ r = cs.dropWhile (fun c => (digitValue? radix c).isSome) := by
  simp only [number] at read
  split at read
  · contradiction
  split at read
  · contradiction
  split at read
  · contradiction
  split at read
  · cases read
    exact ⟨by assumption, rfl⟩
  · contradiction

theorem number_lt {radix limit : Nat} {maxDigits : Option Nat} {zeroPrefix : Bool}
    {cs r : List Char} {v : Nat} (read : number radix maxDigits zeroPrefix limit cs = some (v, r)) :
    v < limit :=
  (number_eq_some read).1

theorem number_cons_none {radix limit : Nat} {maxDigits : Option Nat} {zeroPrefix : Bool}
    {c : Char} {more : List Char} (stop : digitValue? radix c = none) :
    number radix maxDigits zeroPrefix limit (c :: more) = none := by
  simp [number, stop]

theorem digitValue?_ten_of_sixteen {c : Char} (h : digitValue? 16 c = none) : digitValue? 10 c = none := by
  simp only [digitValue?, Option.filter_eq_none_iff] at h ⊢
  intro v mem
  have := h v mem
  simp at this ⊢
  omega

/-! ## Characters and dotted addresses -/

@[simp] theorem char_cons_self {c : Char} {more : List Char} : char c (c :: more) = some ((), more) := by
  simp [char]

theorem char_cons_ne {c d : Char} {more : List Char} (ne : d ≠ c) : char c (d :: more) = none := by
  simp [char, ne]

theorem dotted_toList (a b c d : Nat) : (Host.dotted [a, b, c, d]).toList =
    Nat.toDigits 10 a ++ '.' :: (Nat.toDigits 10 b ++ '.' ::
      (Nat.toDigits 10 c ++ '.' :: Nat.toDigits 10 d)) := by
  simp [Host.dotted, Nat.repr_eq_ofList_toDigits]

theorem octet_toDigits {o : Nat} {rest : List Char} (fits : o < 256)
    (ends : ∀ c ∈ rest.head?, digitValue? 10 c = none) :
    octet (Nat.toDigits 10 o ++ rest) = some (o, rest) := by
  have short : (Nat.toDigits 10 o).length ≤ 3 :=
    (Nat.length_toDigits_le_iff (by decide) (by decide)).2 (by omega)
  exact number_toDigits (Or.inl rfl) fits (fun m held => by cases held; exact short) ends

theorem dot_ends {more : List Char} : ∀ c ∈ ('.' :: more).head?, digitValue? 10 c = none := by
  intro c held
  cases held
  decide

theorem ipv4_dotted {a b c d : Nat} {rest : List Char}
    (fits : a < 256 ∧ b < 256 ∧ c < 256 ∧ d < 256)
    (ends : ∀ x ∈ rest.head?, digitValue? 10 x = none) :
    ipv4 ((Host.dotted [a, b, c, d]).toList ++ rest) = some ([a, b, c, d], rest) := by
  obtain ⟨fa, fb, fc, fd⟩ := fits
  simp [ipv4, dotted_toList, octet_toDigits fa dot_ends, octet_toDigits fb dot_ends,
    octet_toDigits fc dot_ends, octet_toDigits fd ends]

theorem ipv4_fits {cs r : List Char} {os : List Nat} (read : ipv4 cs = some (os, r)) :
    os.length = 4 ∧ ∀ o ∈ os, o < 256 := by
  simp only [ipv4, Option.bind_eq_bind, Option.bind_eq_some_iff, Option.pure_def,
    Option.some.injEq, Prod.mk.injEq] at read
  obtain ⟨⟨a, _⟩, ra, _, _, ⟨b, _⟩, rb, _, _, ⟨c, _⟩, rc, _, _, ⟨d, _⟩, rd, rfl, rfl⟩ := read
  simp [number_lt ra, number_lt rb, number_lt rc, number_lt rd]

/-! ## Runs of groups -/

/-- What may follow a group without being read into it: no digit, and no dot. -/
def GroupEnd (cs : List Char) : Prop := ∀ c ∈ cs.head?, digitValue? 16 c = none ∧ c ≠ '.'

/-- Where a run of groups stops: after no separator does a group or a dotted address start. -/
def Halts (cs : List Char) : Prop :=
  ∀ i r, separator i cs = some ((), r) → group r = none ∧ ipv4 r = none

theorem group_ipv4_cons_none {c : Char} {more : List Char} (stop : digitValue? 16 c = none) :
    group (c :: more) = none ∧ ipv4 (c :: more) = none := by
  refine ⟨number_cons_none stop, ?_⟩
  simp [ipv4, octet, number_cons_none (digitValue?_ten_of_sixteen stop)]

theorem digitChar_ne_dot : ∀ k < 16, Nat.digitChar k ≠ '.' := by decide

theorem head_dropWhile_append {α : Type} {p : α → Bool} {l r : List α}
    (stop : ∀ x ∈ r.head?, p x = false) :
    ∀ x ∈ ((l ++ r).dropWhile p).head?, x ∈ l ∨ x ∈ r.head? := by
  induction l with
  | nil =>
    intro x mem
    cases r with
    | nil => simp at mem
    | cons y r =>
      rw [List.nil_append, List.dropWhile_cons_of_neg (by simp [stop y rfl])] at mem
      exact Or.inr mem
  | cons y l ih =>
    intro x mem
    by_cases py : p y
    · rw [List.cons_append, List.dropWhile_cons_of_pos py] at mem
      rcases ih x mem with h | h
      · exact Or.inl (List.mem_cons_of_mem y h)
      · exact Or.inr h
    · rw [List.cons_append, List.dropWhile_cons_of_neg py] at mem
      simp only [List.head?_cons, Option.mem_def, Option.some.injEq] at mem
      exact Or.inl (mem ▸ List.mem_cons_self)

/-- A hexadecimal group is never the start of a dotted address: its decimal digits end
at a letter or at what follows the group, never at a dot. -/
theorem ipv4_toDigits_none {g : Nat} {more : List Char} (ends : GroupEnd more) :
    ipv4 (Nat.toDigits 16 g ++ more) = none := by
  cases read : octet (Nat.toDigits 16 g ++ more) with
  | none => simp [ipv4, read]
  | some p =>
    obtain ⟨a, cs⟩ := p
    have noDot : char '.' cs = none := by
      cases cs with
      | nil => rfl
      | cons x xs =>
        have first : x ∈ (((Nat.toDigits 16 g ++ more).dropWhile
            fun c => (digitValue? 10 c).isSome)).head? := by
          rw [← (number_eq_some read).2]; rfl
        have stop : ∀ y ∈ more.head?, (digitValue? 10 y).isSome = false := by
          intro y mem
          simp [digitValue?_ten_of_sixteen (ends y mem).1]
        rcases head_dropWhile_append stop x first with mem | mem
        · obtain ⟨k, small, rfl⟩ := digitChar_of_mem_toDigits (by decide) mem
          exact char_cons_ne (digitChar_ne_dot k small)
        · exact char_cons_ne (ends x mem).2
    simp [ipv4, read, noDot]

theorem groups_halt {n i : Nat} {cs : List Char} (halts : Halts cs) :
    groups n i cs = (([], false), cs) := by
  cases n with
  | zero => rfl
  | succ n =>
    cases sep : separator i cs with
    | none => simp [groups, sep]
    | some p =>
      obtain ⟨⟨⟩, r⟩ := p
      have nothing := halts i r sep
      simp [groups, sep, nothing.1, nothing.2]

theorem group_toDigits {g : Nat} {more : List Char} (fits : g < 65536) (ends : GroupEnd more) :
    group (Nat.toDigits 16 g ++ more) = some (g, more) := by
  have short : (Nat.toDigits 16 g).length ≤ 4 :=
    (Nat.length_toDigits_le_iff (by decide) (by decide)).2 fits
  exact number_toDigits (Or.inr rfl) fits (fun m held => by cases held; exact short)
    (fun c held => (ends c held).1)

theorem groups_step {n i g : Nat} {cs more r : List Char} {gs : List Nat} {v4 : Bool}
    (fits : g < 65536) (sep : separator i cs = some ((), Nat.toDigits 16 g ++ more))
    (ends : GroupEnd more) (next : groups n (i + 1) more = ((gs, v4), r)) :
    groups (n + 1) i cs = ((g :: gs, v4), r) := by
  simp [groups, sep, ipv4_toDigits_none ends, group_toDigits fits ends, next]

theorem groups_quad {n i a b c d : Nat} {cs r rest : List Char}
    (sep : separator i cs = some ((), r)) (quad : ipv4 r = some ([a, b, c, d], rest)) :
    groups (n + 2) i cs = (([a * 256 + b, c * 256 + d], true), rest) := by
  simp [groups, sep, quad]

theorem groupEnd_flatMap {hs : List Nat} {rest : List Char} (ends : GroupEnd rest) :
    GroupEnd (hs.flatMap (fun h => ':' :: Nat.toDigits 16 h) ++ rest) := by
  cases hs with
  | nil => simpa using ends
  | cons h hs =>
    intro c held
    simp only [List.flatMap_cons, List.cons_append, List.head?_cons, Option.mem_def,
      Option.some.injEq] at held
    subst held
    decide

theorem intercalate_single_cons {c : Char} (l : List Char) (ls : List (List Char)) :
    [c].intercalate (l :: ls) = l ++ ls.flatMap (c :: ·) := by
  induction ls generalizing l with
  | nil => simp
  | cons l' ls ih => simp [ih]

theorem groups_colons {hs : List Nat} {rest : List Char} (fits : ∀ h ∈ hs, h < 65536)
    (ends : GroupEnd rest) {n i : Nat} (later : 0 < i) (few : hs.length ≤ n)
    (halts : hs.length < n → Halts rest) :
    groups n i (hs.flatMap (fun h => ':' :: Nat.toDigits 16 h) ++ rest) = ((hs, false), rest) := by
  induction hs generalizing n i with
  | nil =>
    rcases Nat.eq_zero_or_pos n with rfl | pos
    · rfl
    · exact groups_halt (halts pos)
  | cons h hs ih =>
    obtain ⟨n, rfl⟩ : ∃ m, n = m + 1 := ⟨n - 1, by simp at few; omega⟩
    have sep : separator i (':' :: (Nat.toDigits 16 h ++
        (hs.flatMap (fun h => ':' :: Nat.toDigits 16 h) ++ rest))) =
        some ((), Nat.toDigits 16 h ++ (hs.flatMap (fun h => ':' :: Nat.toDigits 16 h) ++ rest)) := by
      simp [separator, Nat.pos_iff_ne_zero.mp later]
    have next := ih (fun g held => fits g (List.mem_cons_of_mem h held)) (Nat.succ_pos i)
      (by simp at few; omega) (fun short => halts (by simp; omega))
    simpa using groups_step (fits h List.mem_cons_self) sep (groupEnd_flatMap ends) next

theorem groups_hexGroups {hs : List Nat} {rest : List Char} (fits : ∀ h ∈ hs, h < 65536)
    (ends : GroupEnd rest) {n : Nat} (few : hs.length ≤ n) (halts : hs.length < n → Halts rest) :
    groups n 0 ((Host.hexGroups hs).toList ++ rest) = ((hs, false), rest) := by
  cases hs with
  | nil =>
    rcases Nat.eq_zero_or_pos n with rfl | pos
    · rfl
    · simpa [Host.hexGroups] using groups_halt (i := 0) (halts pos)
  | cons h hs =>
    obtain ⟨n, rfl⟩ : ∃ m, n = m + 1 := ⟨n - 1, by simp at few; omega⟩
    have text : (Host.hexGroups (h :: hs)).toList ++ rest = Nat.toDigits 16 h ++
        (hs.flatMap (fun h => ':' :: Nat.toDigits 16 h) ++ rest) := by
      simp [Host.hexGroups, Host.hex, List.map_map, Function.comp_def, intercalate_single_cons,
        List.flatMap_map]
    have next := groups_colons (fun g held => fits g (List.mem_cons_of_mem h held)) ends
      (Nat.succ_pos 0) (by simp at few; omega) (fun short => halts (by simp; omega))
    rw [text]
    exact groups_step (fits h List.mem_cons_self) rfl (groupEnd_flatMap ends) next

theorem closing_halts {c : Char} {more : List Char} (closing : c = ']' ∨ c = '%') :
    Halts (c :: more) ∧ GroupEnd (c :: more) := by
  have facts : digitValue? 16 c = none ∧ c ≠ '.' ∧ c ≠ ':' := by
    rcases closing with rfl | rfl <;> decide
  refine ⟨fun i r sep => ?_, fun x held => by cases held; exact ⟨facts.1, facts.2.1⟩⟩
  have same : r = c :: more := by
    by_cases first : i = 0
    · simp [separator, first] at sep; exact sep.symm
    · simp [separator, first, char_cons_ne facts.2.2] at sep
  subst same
  exact group_ipv4_cons_none facts.1

theorem colons_halts {more : List Char} : Halts (':' :: ':' :: more) ∧ GroupEnd (':' :: ':' :: more) := by
  have colon : digitValue? 16 ':' = none := by decide
  refine ⟨fun i r sep => ?_, fun x held => by cases held; decide⟩
  by_cases first : i = 0
  · simp only [separator, first, if_true, Option.some.injEq, Prod.mk.injEq, true_and] at sep
    subst sep
    exact group_ipv4_cons_none colon
  · simp only [separator, first, if_false, char_cons_self, Option.some.injEq, Prod.mk.injEq,
      true_and] at sep
    subst sep
    exact group_ipv4_cons_none colon

theorem groups_fits {n i : Nat} {cs : List Char} :
    (groups n i cs).1.1.length ≤ n ∧ ∀ g ∈ (groups n i cs).1.1, g < 65536 := by
  induction n generalizing i cs with
  | zero => simp [groups]
  | succ n ih =>
    simp only [groups]
    split
    · rename_i a b c d r quad
      split at quad
      · contradiction
      simp only [Option.bind_eq_bind, Option.bind_eq_some_iff] at quad
      obtain ⟨_, _, read⟩ := quad
      have small : a < 256 ∧ b < 256 ∧ c < 256 ∧ d < 256 := by simpa using (ipv4_fits read).2
      refine ⟨by simp; omega, ?_⟩
      simp only [List.mem_cons, List.mem_nil_iff, or_false]
      omega
    · split
      · rename_i g r groupRead
        simp only [Option.bind_eq_bind, Option.bind_eq_some_iff] at groupRead
        obtain ⟨_, _, read⟩ := groupRead
        have next := @ih (i + 1) r
        refine ⟨Nat.succ_le_succ next.1, ?_⟩
        rintro x (_ | ⟨_, later⟩)
        · exact number_lt read
        · exact next.2 x later
      · simp

end Endpoint

namespace Host

/-! ## The longest run of zero groups -/

/-- `run` is `run.2` zero groups from index `run.1`, all within `gs`. -/
def ZeroRunIn (gs : List Nat) (run : Nat × Nat) : Prop :=
  run.1 + run.2 ≤ gs.length ∧ ∀ k, run.1 ≤ k → k < run.1 + run.2 → gs[k]? = some 0

theorem ZeroRunIn.append {gs : List Nat} {run : Nat × Nat} (g : Nat) (inside : ZeroRunIn gs run) :
    ZeroRunIn (gs ++ [g]) run := by
  have within := inside.1
  refine ⟨by simp; omega, fun k lo hi => ?_⟩
  rw [List.getElem?_append_left (by omega)]
  exact inside.2 k lo hi

theorem ZeroRunIn.grow {gs : List Nat} {start len : Nat} (inside : ZeroRunIn gs (start, len))
    (last : start + len = gs.length) : ZeroRunIn (gs ++ [0]) (start, len + 1) := by
  refine ⟨by simp; omega, fun k lo hi => ?_⟩
  by_cases old : k < gs.length
  · rw [List.getElem?_append_left old]
    exact inside.2 k lo (by simp at hi ⊢; omega)
  · rw [List.getElem?_append_right (by omega), show k - gs.length = 0 by simp at hi; omega]
    rfl

/-- The run `zeroRun` finds is a run of zero groups. The fold keeps both the best run and
the current one inside the groups seen so far, the current one ending at the last of them. -/
theorem zeroRun_in (gs : List Nat) : ZeroRunIn gs (zeroRun gs) := by
  let Inv : List Nat → (Nat × Nat) × (Nat × Nat) × Nat → Prop := fun l acc =>
    acc.2.2 = l.length ∧ ZeroRunIn l acc.1 ∧ ZeroRunIn l acc.2.1 ∧
      (0 < acc.2.1.2 → acc.2.1.1 + acc.2.1.2 = acc.2.2)
  have start : Inv [] ((0, 0), (0, 0), 0) :=
    ⟨rfl, ⟨Nat.le_refl 0, fun k _ hi => absurd hi (Nat.not_lt_zero k)⟩,
      ⟨Nat.le_refl 0, fun k _ hi => absurd hi (Nat.not_lt_zero k)⟩, by simp⟩
  unfold zeroRun
  refine (foldl_prefix_invariant _ Inv ?_ gs start).2.1
  · rintro l ⟨best, ⟨s, n⟩, i⟩ g ⟨seen, bestIn, curIn, ending⟩
    simp only at seen bestIn curIn ending
    dsimp only
    by_cases zero : g = 0
    · subst zero
      have grown : ZeroRunIn (l ++ [0]) (if n = 0 then (i, 1) else (s, n + 1)) ∧
          (if n = 0 then (i, 1) else (s, n + 1)).1 +
            (if n = 0 then (i, 1) else (s, n + 1)).2 = i + 1 := by
        by_cases fresh : n = 0
        · simp only [fresh, if_true]
          exact ⟨(show ZeroRunIn l (i, 0) from ⟨by simp; omega, fun k _ hi => by omega⟩).grow
            (by simp; omega), trivial⟩
        · simp only [fresh, if_false]
          have last := ending (by omega)
          exact ⟨curIn.grow (by omega), by omega⟩
      simp only [if_true]
      generalize (if n = 0 then (i, 1) else (s, n + 1)) = cur at grown ⊢
      refine ⟨by simp [seen], ?_, grown.1, fun _ => grown.2⟩
      split
      · exact grown.1
      · exact bestIn.append 0
    · simp only [zero, if_false]
      exact ⟨by simp [seen], bestIn.append g, ⟨by simp, fun k _ hi => absurd hi (Nat.not_lt_zero k)⟩,
        by simp⟩

theorem ZeroRunIn.split {gs : List Nat} {start len : Nat} (inside : ZeroRunIn gs (start, len)) :
    gs.take start ++ List.replicate len 0 ++ gs.drop (start + len) = gs := by
  have zeros : (gs.drop start).take len = List.replicate len 0 := by
    apply List.ext_getElem?
    intro k
    by_cases small : k < len
    · rw [List.getElem?_take_of_lt small, List.getElem?_drop, List.getElem?_replicate_of_lt small]
      exact inside.2 (start + k) (by omega) (by omega)
    · rw [List.getElem?_take_eq_none (by omega), List.getElem?_replicate]
      simp [small]
  calc gs.take start ++ List.replicate len 0 ++ gs.drop (start + len)
      = gs.take start ++ ((gs.drop start).take len ++ (gs.drop start).drop len) := by
        rw [zeros, List.drop_drop, List.append_assoc]
    _ = gs := by rw [List.take_append_drop, List.take_append_drop]

end Host

namespace Endpoint

/-! ## IPv6 addresses -/

theorem ffff_toDigits : ['f', 'f', 'f', 'f'] = Nat.toDigits 16 65535 := by decide

theorem ipv6_mapped {a b : Nat} {rest : List Char} (fits : a < 65536 ∧ b < 65536)
    (closing : Halts rest ∧ GroupEnd rest) :
    ipv6 ((Host.groupsText [0, 0, 0, 0, 0, 65535, a, b]).toList ++ rest) =
      some ([0, 0, 0, 0, 0, 65535, a, b], rest) := by
  have text : (Host.groupsText [0, 0, 0, 0, 0, 65535, a, b]).toList ++ rest =
      ':' :: ':' :: (Nat.toDigits 16 65535 ++ ':' ::
        ((Host.dotted [a / 256, a % 256, b / 256, b % 256]).toList ++ rest)) := by
    simp [Host.groupsText, ← ffff_toDigits]
  have ends : ∀ x ∈ rest.head?, digitValue? 10 x = none :=
    fun x held => digitValue?_ten_of_sixteen (closing.2 x held).1
  have quad := ipv4_dotted (a := a / 256) (b := a % 256) (c := b / 256) (d := b % 256)
    ⟨by omega, by omega, by omega, by omega⟩ ends
  have tail : groups 6 1 (':' :: ((Host.dotted [a / 256, a % 256, b / 256, b % 256]).toList ++ rest)) =
      (([a / 256 * 256 + a % 256, b / 256 * 256 + b % 256], true), rest) :=
    groups_quad (n := 4) rfl quad
  have tail' : groups 7 0 (Nat.toDigits 16 65535 ++ ':' ::
      ((Host.dotted [a / 256, a % 256, b / 256, b % 256]).toList ++ rest)) =
      (([65535, a / 256 * 256 + a % 256, b / 256 * 256 + b % 256], true), rest) :=
    groups_step (by decide) rfl (fun x held => by cases held; decide) tail
  have head : groups 8 0 (':' :: ':' :: (Nat.toDigits 16 65535 ++ ':' ::
      ((Host.dotted [a / 256, a % 256, b / 256, b % 256]).toList ++ rest))) = (([], false), _) :=
    groups_halt colons_halts.1
  rw [text]
  simp [ipv6, head, tail']
  omega

theorem ipv6_full {gs : List Nat} {rest : List Char} (eight : gs.length = 8)
    (fits : ∀ g ∈ gs, g < 65536) (ends : GroupEnd rest) :
    ipv6 ((Host.hexGroups gs).toList ++ rest) = some (gs, rest) := by
  have all : groups 8 0 ((Host.hexGroups gs).toList ++ rest) = ((gs, false), rest) :=
    groups_hexGroups fits ends (by omega) (fun short => absurd short (by omega))
  simp [ipv6, all, eight]

theorem ipv6_compressed {gs : List Nat} {rest : List Char} {start len : Nat} (eight : gs.length = 8)
    (fits : ∀ g ∈ gs, g < 65536) (run : Host.ZeroRunIn gs (start, len)) (long : 1 < len)
    (closing : Halts rest ∧ GroupEnd rest) :
    ipv6 ((Host.hexGroups (gs.take start) ++ "::" ++
      Host.hexGroups (gs.drop (start + len))).toList ++ rest) = some (gs, rest) := by
  have within := run.1
  simp only at within
  have text : (Host.hexGroups (gs.take start) ++ "::" ++
      Host.hexGroups (gs.drop (start + len))).toList ++ rest =
      (Host.hexGroups (gs.take start)).toList ++
        ':' :: ':' :: ((Host.hexGroups (gs.drop (start + len))).toList ++ rest) := by
    simp
  have head : groups 8 0 ((Host.hexGroups (gs.take start)).toList ++
      ':' :: ':' :: ((Host.hexGroups (gs.drop (start + len))).toList ++ rest)) =
      ((gs.take start, false),
        ':' :: ':' :: ((Host.hexGroups (gs.drop (start + len))).toList ++ rest)) :=
    groups_hexGroups (fun g held => fits g (List.mem_of_mem_take held)) colons_halts.2
      (by simp; omega) (fun _ => colons_halts.1)
  have tail : groups (7 - start) 0 ((Host.hexGroups (gs.drop (start + len))).toList ++ rest) =
      ((gs.drop (start + len), false), rest) :=
    groups_hexGroups (fun g held => fits g (List.mem_of_mem_drop held)) closing.2
      (by simp; omega) (fun _ => closing.1)
  have lengths : (gs.take start).length = start ∧
      (gs.drop (start + len)).length = 8 - (start + len) := by
    simp; omega
  rw [text]
  simp only [ipv6, head, lengths, show start ≠ 8 by omega]
  simpa [tail, lengths, show 8 - start - (8 - (start + len)) = len by omega] using run.split

theorem ipv6_groupsText {gs : List Nat} {rest : List Char} (eight : gs.length = 8)
    (fits : ∀ g ∈ gs, g < 65536) (closing : Halts rest ∧ GroupEnd rest) :
    ipv6 ((Host.groupsText gs).toList ++ rest) = some (gs, rest) := by
  unfold Host.groupsText
  split
  · exact ipv6_mapped ⟨fits _ (by simp), fits _ (by simp)⟩ closing
  · have run := Host.zeroRun_in gs
    generalize Host.zeroRun gs = found at run ⊢
    obtain ⟨start, len⟩ := found
    dsimp only
    split
    · exact ipv6_compressed eight fits run (by omega) closing
    · exact ipv6_full eight fits closing.2

theorem ipv6_fits {cs r : List Char} {gs : List Nat} (read : ipv6 cs = some (gs, r)) :
    gs.length = 8 ∧ ∀ g ∈ gs, g < 65536 := by
  have head := @groups_fits 8 0 cs
  simp only [ipv6] at read
  generalize groups 8 0 cs = found at head read
  obtain ⟨⟨hs, v4⟩, rest⟩ := found
  simp only at head read
  split at read
  · simp only [Option.some.injEq, Prod.mk.injEq] at read
    obtain ⟨rfl, rfl⟩ := read
    exact ⟨by assumption, head.2⟩
  · split at read
    · contradiction
    simp only [Option.bind_eq_bind, Option.bind_eq_some_iff, Option.pure_def, Option.some.injEq,
      Prod.mk.injEq] at read
    obtain ⟨_, _, ⟨_, tailRest⟩, _, rfl, rfl⟩ := read
    have tail := @groups_fits (8 - (hs.length + 1)) 0 tailRest
    generalize groups (8 - (hs.length + 1)) 0 tailRest = found at tail ⊢
    obtain ⟨⟨ts, _⟩, _⟩ := found
    simp only at tail ⊢
    refine ⟨by simp; omega, ?_⟩
    simp only [List.mem_append, List.mem_replicate]
    rintro g ((early | ⟨_, rfl⟩) | late)
    · exact head.2 g early
    · decide
    · exact tail.2 g late

/-! ## Endpoints -/

theorem number_port {port : Nat} (fits : port < 65536) :
    number 10 none true 65536 (Nat.toDigits 10 port) = some (port, []) := by
  simpa using @number_toDigits 10 port 65536 none true [] (Or.inl rfl) fits
    (fun m held => by cases held) (fun c held => by cases held)

theorem socketV4_render {a b c d port : Nat} (fits : a < 256 ∧ b < 256 ∧ c < 256 ∧ d < 256)
    (portFits : port < 65536) :
    socketV4 ((Host.dotted [a, b, c, d]).toList ++ ':' :: Nat.toDigits 10 port) =
      some ({ host := .v4 [a, b, c, d], port }, []) := by
  have colon : ∀ x ∈ (':' :: Nat.toDigits 10 port).head?, digitValue? 10 x = none := by
    intro x held
    cases held
    decide
  simp [socketV4, ipv4_dotted fits colon, number_port portFits]

theorem socketV4_bracket {more : List Char} : socketV4 ('[' :: more) = none := by
  simp [socketV4, (group_ipv4_cons_none (by decide : digitValue? 16 '[' = none)).2]

theorem socketV6_render {gs : List Nat} {scope port : Nat} (eight : gs.length = 8)
    (fits : ∀ g ∈ gs, g < 65536) (scopeFits : scope < 2 ^ 32) (portFits : port < 65536) :
    socketV6 ('[' :: ((Host.groupsText gs).toList ++
        ((if scope = 0 then [] else '%' :: Nat.toDigits 10 scope) ++ ']' :: ':' :: Nat.toDigits 10 port))) =
      some ({ host := .v6 gs scope, port }, []) := by
  by_cases unscoped : scope = 0
  · subst unscoped
    have groupsRead : ipv6 ((Host.groupsText gs).toList ++ ']' :: ':' :: Nat.toDigits 10 port) =
        some (gs, _) :=
      ipv6_groupsText eight fits (closing_halts (Or.inl rfl))
    simp [socketV6, groupsRead, char_cons_ne (show ']' ≠ '%' by decide), number_port portFits]
  · have groupsRead : ipv6 ((Host.groupsText gs).toList ++
        '%' :: (Nat.toDigits 10 scope ++ ']' :: ':' :: Nat.toDigits 10 port)) = some (gs, _) :=
      ipv6_groupsText eight fits (closing_halts (Or.inr rfl))
    have scopeRead : number 10 none true 4294967296
        (Nat.toDigits 10 scope ++ ']' :: ':' :: Nat.toDigits 10 port) =
        some (scope, ']' :: ':' :: Nat.toDigits 10 port) :=
      number_toDigits (Or.inl rfl) (by omega) (fun m held => by cases held)
        (fun c held => by cases held; decide)
    simp [socketV6, unscoped, groupsRead, scopeRead, number_port portFits]

/-- The text of an endpoint whose numbers fit reads back as the endpoint. -/
theorem parse?_render {e : Endpoint} (fits : e.Fits) : parse? e.render = some e := by
  obtain ⟨host, port⟩ := e
  obtain ⟨hostFits, portFits⟩ := fits
  cases host with
  | v4 os =>
    obtain ⟨four, octets⟩ := hostFits
    match os, four, octets with
    | [a, b, c, d], _, octets =>
      have small : a < 256 ∧ b < 256 ∧ c < 256 ∧ d < 256 := by simpa using octets
      have text : (render { host := .v4 [a, b, c, d], port }).toList =
          (Host.dotted [a, b, c, d]).toList ++ ':' :: Nat.toDigits 10 port := by
        simp [render]
      simp [parse?, text, socketV4_render small portFits]
  | v6 gs scope =>
    obtain ⟨eight, groupFits, scopeFits⟩ := hostFits
    have text : (render { host := .v6 gs scope, port }).toList =
        '[' :: ((Host.groupsText gs).toList ++
          ((if scope = 0 then [] else '%' :: Nat.toDigits 10 scope) ++
            ']' :: ':' :: Nat.toDigits 10 port)) := by
      cases scope <;> simp [render]
    simp [parse?, text, socketV4_bracket, socketV6_render eight groupFits scopeFits portFits]

theorem socketV4_fits {cs r : List Char} {e : Endpoint} (read : socketV4 cs = some (e, r)) :
    e.Fits := by
  simp only [socketV4, Option.bind_eq_bind, Option.bind_eq_some_iff, Option.pure_def,
    Option.some.injEq, Prod.mk.injEq] at read
  obtain ⟨⟨os, _⟩, quad, _, _, ⟨port, _⟩, portRead, rfl, rfl⟩ := read
  exact ⟨ipv4_fits quad, number_lt portRead⟩

theorem socketV6_fits {cs r : List Char} {e : Endpoint} (read : socketV6 cs = some (e, r)) :
    e.Fits := by
  simp only [socketV6, Option.bind_eq_bind, Option.bind_eq_some_iff, Option.pure_def,
    Option.some.injEq, Prod.mk.injEq] at read
  obtain ⟨_, _, ⟨gs, rest⟩, groupsRead, _, _, _, _, ⟨port, _⟩, portRead, rfl, _⟩ := read
  have scopeFits : (((char '%' rest).bind fun p => number 10 none true (Nat.pow 2 32) p.2).getD
      (0, rest)).1 < 2 ^ 32 := by
    cases found : (char '%' rest).bind fun p => number 10 none true (Nat.pow 2 32) p.2 with
    | none => simp
    | some scope =>
      simp only [Option.bind_eq_some_iff] at found
      obtain ⟨_, _, scopeRead⟩ := found
      exact number_lt scopeRead
  exact ⟨⟨(ipv6_fits groupsRead).1, (ipv6_fits groupsRead).2, scopeFits⟩, number_lt portRead⟩

/-- Every endpoint read from a text fits its widths. -/
theorem parse?_fits {s : String} {e : Endpoint} (read : parse? s = some e) : e.Fits := by
  simp only [parse?] at read
  split at read
  · rename_i e' found
    cases read
    split at found
    · rename_i v4
      cases found
      exact socketV4_fits v4
    · exact socketV6_fits found
  · contradiction

end Endpoint

end ActorSilo
