import Mathlib
import ActorSilo.Proofs.NumberReads

/-! # Typed readers read back compact text

`Decode.Reads x j v room` says that the reader `x` reads the compact text of `j` back as `v`,
wherever it stands, with more than `room` levels of nesting left. The lemmas build such facts
shape by shape from those of the parts: numbers, booleans and strings, optional values, arrays
(`reads_seq`), records written as objects (`reads_record`, via `ReadsMembers`) and tagged choices.
A whole text is read back when its nesting is below the reader's limit (`Reads.run`).
-/

namespace ActorSilo.Json

theorem compactItems_eq (items : List Json) : compactItems items = items.map compact := by
  induction items with
  | nil => rfl
  | cons j items ih => rw [compactItems, ih, List.map_cons]

theorem compactFields_eq (fields : List (String × Json)) :
    compactFields fields = fields.map fun m => quote m.1 ++ ":" ++ compact m.2 := by
  induction fields with
  | nil => rfl
  | cons m fields ih => rw [compactFields, ih, List.map_cons]

theorem bytes_intercalate (t : String) (ts : List String) :
    bytes (",".intercalate (t :: ts)) = bytes t ++ ts.flatMap fun u => 44 :: bytes u := by
  induction ts generalizing t with
  | nil => simp
  | cons u ts ih =>
    rw [String.intercalate_cons_of_ne_nil (List.cons_ne_nil u ts), bytes_append, bytes_append, ih,
      List.flatMap_cons, List.append_assoc]
    rfl

theorem bytes_arr_nil : bytes (compact (.arr [])) = [91, 93] := rfl

theorem bytes_arr_cons (j : Json) (rest : List Json) :
    bytes (compact (.arr (j :: rest))) =
      91 :: (bytes (compact j) ++ rest.flatMap (fun i => 44 :: bytes (compact i)) ++ [93]) := by
  rw [compact, compactItems_eq, List.map_cons, bytes_append, bytes_append, bytes_intercalate,
    List.flatMap_map]
  rfl

theorem bytes_obj_nil : bytes (compact (.obj [])) = [123, 125] := rfl

theorem bytes_member (k : String) (j : Json) :
    bytes (quote k ++ ":" ++ compact j) = bytes (quote k) ++ 58 :: bytes (compact j) := by
  rw [bytes_append, bytes_append, List.append_assoc]
  rfl

theorem bytes_obj_cons (m : String × Json) (rest : List (String × Json)) :
    bytes (compact (.obj (m :: rest))) =
      123 :: (bytes (quote m.1 ++ ":" ++ compact m.2) ++
        rest.flatMap (fun m => 44 :: bytes (quote m.1 ++ ":" ++ compact m.2)) ++ [125]) := by
  rw [compact, compactFields_eq, List.map_cons, bytes_append, bytes_append, bytes_intercalate,
    List.flatMap_map]
  rfl

namespace Decode
open Reader

/-- The reader `x` reads the compact text of `j` back as `v`: wherever that text stands, followed
by the end, a comma or a closing bracket, with more than `room` levels of nesting left, `x` gives
`v` and stops right after the text. -/
def Reads {α : Type} (x : ReadM α) (j : Json) (v : α) (room : Nat) : Prop :=
  ∀ ⦃r : Reader⦄ ⦃more : List UInt8⦄, r.rest = bytes (compact j) ++ more → Ends more →
    room < r.depth → Returns x r v (r.advance (bytes (compact j)).length)

section Scalars

variable {α : Type}

theorem nonBlank_of_digit {b : UInt8} (low : 48 ≤ b.toNat) : NonBlank b := by
  refine ⟨?_, ?_, ?_, ?_⟩ <;> intro same <;> rw [same] at low <;> simp at low

theorem reads_unsigned {bits n : Nat} (name : String) (wide : bits ≤ 64) (fits : n < 2 ^ bits)
    (room : Nat) : Reads (unsigned bits name) (.nat n) n room := by
  intro r more h ends _
  have small : n ≤ u64Max :=
    Nat.le_sub_one_of_lt (Nat.lt_of_lt_of_le fits (Nat.pow_le_pow_right (by decide) wide))
  simp only [compact] at h ⊢
  obtain ⟨b, bs, first, low, high⟩ := bytes_toString_head n
  have at_b : r.rest = b :: (bs ++ more) := by rw [h, first, List.cons_append]
  unfold unsigned numberWith
  refine Returns.placing ?_
  refine (returns_skipBlanks (solid_of_rest at_b (nonBlank_of_digit low))).bind ?_
  have notMinus : (b == 45) = false := by
    rw [beq_eq_false_iff_ne]
    intro same
    rw [same] at low
    simp at low
  have digit : 48 ≤ b ∧ b ≤ 57 := ⟨UInt8.le_iff_toNat_le.mpr low, UInt8.le_iff_toNat_le.mpr high⟩
  rw [at_b]
  simp only [List.head?_cons, notMinus, Bool.false_eq_true, if_false, digit, and_self, if_true]
  refine (returns_number small h ends).bind ?_
  exact returns_check (if_pos fits) _

theorem reads_bool (b : Bool) (room : Nat) : Reads bool (.bool b) b room := by
  intro r more h ends _
  unfold bool
  refine Returns.placing ?_
  cases b
  · have spelled : r.rest = 102 :: ([97, 108, 115, 101] ++ more) := h
    refine (returns_skipBlanks (solid_of_rest spelled (by decide))).bind ?_
    rw [spelled]
    refine (returns_eat r).bind ((returns_expectIdent (rest_advance_one spelled)).bind ?_)
    exact returns_pure _ _
  · have spelled : r.rest = 116 :: ([114, 117, 101] ++ more) := h
    refine (returns_skipBlanks (solid_of_rest spelled (by decide))).bind ?_
    rw [spelled]
    refine (returns_eat r).bind ((returns_expectIdent (rest_advance_one spelled)).bind ?_)
    exact returns_pure _ _

theorem returns_stringWith {expected : String} {visit : String → Except Error α} {s : String} {v : α}
    (visited : visit s = .ok v) {r : Reader} {more : List UInt8} (h : r.rest = bytes (quote s) ++ more) :
    Returns (stringWith expected visit) r v (r.advance (bytes (quote s)).length) := by
  rw [bytes_quote, List.cons_append, List.append_assoc, List.singleton_append] at h
  unfold stringWith
  refine Returns.placing ?_
  refine (returns_skipBlanks (solid_of_rest h (by decide))).bind ?_
  rw [h]
  refine (returns_eat r).bind ((returns_stringBody s (rest_advance_one h)).bind ?_)
  rw [advance_advance, length_bytes_quote,
    show 1 + ((escapedBytes s.toList).length + 1) = (escapedBytes s.toList).length + 2 by omega]
  exact returns_check visited _

theorem reads_stringWith {expected : String} {visit : String → Except Error α} {s : String} {v : α}
    (visited : visit s = .ok v) (room : Nat) : Reads (stringWith expected visit) (.str s) v room :=
  fun _ _ h _ _ => returns_stringWith visited h

theorem reads_string (s : String) (room : Nat) : Reads string (.str s) s room :=
  reads_stringWith rfl room

theorem Reads.bind_pure {β : Type} {x : ReadM α} {j : Json} {v : α} {room : Nat} (g : α → β)
    (reads : Reads x j v room) : Reads (x >>= fun a => pure (g a)) j (g v) room :=
  fun _ _ h ends deep => (reads h ends deep).bind (returns_pure _ _)

theorem Reads.map {β : Type} {x : ReadM α} {j : Json} {v : α} {room : Nat} (g : α → β)
    (reads : Reads x j v room) : Reads (g <$> x) j (g v) room :=
  fun _ _ h ends deep => (reads h ends deep).map

/-- The compact text of `j` starts with the first byte of a value other than `null`. -/
def Opens (j : Json) : Prop :=
  ∃ b bs, bytes (compact j) = b :: bs ∧ NonBlank b ∧ b ≠ 44 ∧ b ≠ 93 ∧ b ≠ 125 ∧ b ≠ 110

theorem opens_nat (n : Nat) : Opens (.nat n) := by
  obtain ⟨b, bs, first, low, high⟩ := bytes_toString_head n
  refine ⟨b, bs, first, nonBlank_of_digit low, ?_, ?_, ?_, ?_⟩ <;> intro same <;> subst same <;>
    simp at low high

theorem opens_obj (ms : List (String × Json)) : Opens (.obj ms) :=
  ⟨123, bytes (",".intercalate (compactFields ms)) ++ bytes "\x7d",
    by simp only [compact, bytes_append]; rfl, by decide, by decide, by decide, by decide, by decide⟩

theorem opens_str (s : String) : Opens (.str s) :=
  ⟨34, escapedBytes s.toList ++ [34], by simp only [compact, bytes_quote], by decide, by decide, by decide, by decide, by decide⟩

theorem reads_option_none (x : ReadM α) (room : Nat) : Reads (option x) .null none room := by
  intro r more h ends _
  have spelled : r.rest = 110 :: ([117, 108, 108] ++ more) := h
  unfold option
  refine (returns_skipBlanks (solid_of_rest spelled (by decide))).bind ?_
  rw [spelled]
  refine (returns_eat r).bind ((returns_expectIdent (rest_advance_one spelled)).bind ?_)
  exact returns_pure _ _

theorem reads_option_some {x : ReadM α} {j : Json} {v : α} {room : Nat} (reads : Reads x j v room)
    (opens : Opens j) : Reads (option x) j (some v) room := by
  intro r more h ends deep
  obtain ⟨b, bs, first, solid, _, _, _, notNull⟩ := opens
  have at_b : r.rest = b :: (bs ++ more) := by rw [h, first, List.cons_append]
  unfold option
  refine (returns_skipBlanks (solid_of_rest at_b solid)).bind ?_
  rw [at_b]
  split
  · rename_i null
    cases null
    exact absurd rfl notNull
  · exact (reads h ends deep).map

end Scalars

section Brackets

variable {α : Type}

theorem returns_bracketed {body : ReadM α} {closing : ReadM Unit} {r r₁ r₂ : Reader} {v : α}
    (room : 2 ≤ r.depth) (inner : Returns body { r.advance 1 with depth := r.depth - 1 } v r₁)
    (closed : Returns closing r₁ () r₂) :
    Returns (bracketed body closing) r v { r₂ with depth := r₂.depth + 1 } := by
  unfold bracketed
  refine (returns_open_ room).bind ?_
  refine (inner.map.tryCatch).bind ?_
  exact closed.bind ((returns_close _).bind (returns_pure _ _))

theorem returns_bracketed_span {body : ReadM α} {closing : ReadM Unit} {r : Reader} {v : α} {n : Nat}
    (room : 2 ≤ r.depth)
    (inner : Returns body { r.advance 1 with depth := r.depth - 1 } v
      (({ r.advance 1 with depth := r.depth - 1 } : Reader).advance n))
    (closed : Returns closing (({ r.advance 1 with depth := r.depth - 1 } : Reader).advance n) ()
      (({ r.advance 1 with depth := r.depth - 1 } : Reader).advance (n + 1))) :
    Returns (bracketed body closing) r v (r.advance (n + 2)) := by
  have back : ({ (({ r.advance 1 with depth := r.depth - 1 } : Reader).advance (n + 1)) with
      depth := r.depth - 1 + 1 } : Reader) = r.advance (n + 2) := by
    simp only [advance, Reader.mk.injEq, true_and]
    omega
  rw [← back]
  exact returns_bracketed room inner closed

theorem ends_separated {β : Type} (l : List β) (f : β → List UInt8) (close : UInt8)
    (more : List UInt8) (closing : close = 93 ∨ close = 125) :
    Ends (l.flatMap (fun i => 44 :: f i) ++ close :: more) := by
  rcases l with _ | ⟨b, l⟩
  · intro c held
    cases held
    exact .inr closing
  · intro c held
    cases held
    exact .inl rfl

theorem returns_items_after {item : ReadM α} {toJ : α → Json} {room : Nat} {xs : List α}
    (each : ∀ x ∈ xs, Opens (toJ x) ∧ Reads item (toJ x) x room) :
    ∀ {acc : List α} {fuel : Nat} {r : Reader} {more : List UInt8},
      r.rest = (xs.map toJ).flatMap (fun i => 44 :: bytes (compact i)) ++ 93 :: more →
      xs.length < fuel → room < r.depth →
      Returns (seq.items item false acc fuel) r (acc ++ xs)
        (r.advance ((xs.map toJ).flatMap fun i => 44 :: bytes (compact i)).length) := by
  induction xs with
  | nil =>
    intro acc fuel r more h enough _
    obtain ⟨fuel, rfl⟩ : ∃ f, fuel = f + 1 := ⟨fuel - 1, by simp at enough; omega⟩
    rw [seq.items]
    refine (returns_hasNextElement_end h false).bind ?_
    simpa using returns_pure acc r
  | cons x xs ih =>
    intro acc fuel r more h enough deep
    obtain ⟨⟨b, bs, first, solid, _, notEnd, _⟩, reads⟩ := each x List.mem_cons_self
    obtain ⟨fuel, rfl⟩ : ∃ f, fuel = f + 1 := ⟨fuel - 1, by simp at enough; omega⟩
    simp only [List.map_cons, List.flatMap_cons, List.cons_append, List.append_assoc] at h
    have at_b : r.rest = 44 :: b :: (bs ++ ((xs.map toJ).flatMap (fun i => 44 :: bytes (compact i)) ++
        93 :: more)) := by rw [h, first, List.cons_append]
    rw [seq.items]
    refine (returns_hasNextElement_comma at_b solid notEnd).bind ?_
    refine (reads (rest_advance_one h) (ends_separated _ _ 93 more (.inl rfl)) deep).bind ?_
    have later := @ih (fun y held => each y (List.mem_cons_of_mem _ held)) (acc ++ [x]) fuel _ more
      (rest_advance (rest_advance_one h)) (by simp at enough; omega) deep
    rw [advance_advance, advance_advance] at later
    rw [advance_advance, List.map_cons, List.flatMap_cons, List.length_append, List.length_cons]
    simpa [Nat.add_comm, Nat.add_left_comm, Nat.add_assoc] using later

theorem length_le_separated {β : Type} (l : List β) (f : β → List UInt8) :
    l.length ≤ (l.flatMap fun i => 44 :: f i).length := by
  induction l with
  | nil => exact Nat.le_refl 0
  | cons b l ih =>
    rw [List.flatMap_cons, List.length_append, List.length_cons, List.length_cons]
    omega

theorem length_lt_rest {β : Type} {r : Reader} {o c : UInt8} {first more : List UInt8}
    (ms : List β) (f : β → List UInt8)
    (h : r.rest = o :: (first ++ (ms.flatMap (fun m => 44 :: f m) ++ c :: more))) :
    ms.length + 1 < r.src.size - r.pos + 1 := by
  have total := length_rest r
  have commas := length_le_separated ms f
  rw [h] at total
  simp only [List.length_cons, List.length_append] at total
  omega

@[simp] theorem rest_depth (r : Reader) (d : Nat) : ({ r with depth := d } : Reader).rest = r.rest := rfl

theorem rest_opened {r : Reader} {b : UInt8} {bs : List UInt8} (h : r.rest = b :: bs) :
    ({ r.advance 1 with depth := r.depth - 1 } : Reader).rest = bs := by
  rw [rest_depth]
  exact rest_advance_one h

theorem reads_seq {item : ReadM α} {toJ : α → Json} {room : Nat} {xs : List α}
    (each : ∀ x ∈ xs, Opens (toJ x) ∧ Reads item (toJ x) x room) :
    Reads (seq item) (.arr (xs.map toJ)) xs (room + 1) := by
  intro r more h ends deep
  unfold seq
  refine Returns.placing ?_
  rcases xs with _ | ⟨x, xs⟩
  · -- the empty array
    rw [List.map_nil, bytes_arr_nil] at h ⊢
    have opened : r.rest = 91 :: (93 :: more) := h
    refine (returns_skipBlanks (solid_of_rest opened (by decide))).bind ?_
    rw [opened]
    refine (returns_get r).bind ?_
    have inside : ({ r.advance 1 with depth := r.depth - 1 } : Reader).rest = 93 :: more :=
      rest_opened opened
    refine returns_bracketed_span (by omega) ?_ (returns_endList inside)
    rw [seq.items]
    exact (returns_hasNextElement_end inside true).bind (returns_pure _ _)
  · -- the first element, then the loop over the others
    obtain ⟨⟨b, bs, first, solid, _, notEnd, _⟩, reads⟩ := each x List.mem_cons_self
    rw [List.map_cons, bytes_arr_cons] at h ⊢
    simp only [List.cons_append, List.append_assoc] at h
    refine (returns_skipBlanks (solid_of_rest h (by decide))).bind ?_
    rw [h]
    refine (returns_get r).bind ?_
    have inside : ({ r.advance 1 with depth := r.depth - 1 } : Reader).rest = bytes (compact (toJ x)) ++
        ((xs.map toJ).flatMap (fun i => 44 :: bytes (compact i)) ++ 93 :: more) :=
      rest_opened h
    have at_b := inside
    rw [first, List.cons_append] at at_b
    have enough : (x :: xs).length < r.src.size - r.pos + 1 := by
      simpa using length_lt_rest (xs.map toJ) (fun i => bytes (compact i)) h
    obtain ⟨fuel, fueled⟩ : ∃ f, r.src.size - r.pos + 1 = f + 1 + 1 := ⟨r.src.size - r.pos - 1, by
      simp at enough; omega⟩
    rw [fueled]
    have deeper : room < ({ r.advance 1 with depth := r.depth - 1 } : Reader).depth := by
      simp only
      omega
    have closing := rest_advance (rest_advance inside)
    rw [advance_advance] at closing
    have total : (91 :: (bytes (compact (toJ x)) ++
        (xs.map toJ).flatMap (fun i => 44 :: bytes (compact i)) ++ [93])).length =
        (bytes (compact (toJ x))).length +
          ((xs.map toJ).flatMap fun i => 44 :: bytes (compact i)).length + 2 := by
      simp only [List.length_cons, List.length_append, List.length_nil]
    rw [total]
    refine returns_bracketed_span (by omega) ?_ (returns_endList closing)
    rw [seq.items]
    refine (returns_hasNextElement_first at_b solid notEnd).bind ?_
    refine (reads inside (ends_separated _ _ 93 more (.inl rfl)) deeper).bind ?_
    have later := @returns_items_after α item toJ room xs
      (fun y held => each y (List.mem_cons_of_mem _ held)) ([] ++ [x]) (fuel + 1) _ more
      (rest_advance inside) (by simp at enough; omega) deeper
    rwa [advance_advance] at later

end Brackets

section Records

variable {S α : Type}

/-- The members `ms` of an object, read one after another by the fields of a record from the
partial record `s`, leave it as `t`: each member names a field, whose reader reads its value. -/
def ReadsMembers (fields : List (Field S)) (room : Nat) : List (String × Json) → S → S → Prop
  | [], s, t => t = s
  | (k, j) :: ms, s, t => ∃ f, fields.find? (·.name == k) = some f ∧
      ∃ s', Reads (f.read s) j s' room ∧ ReadsMembers fields room ms s' t

theorem returns_members_step {fields : List (Field S)} {strict : Option (List String)} {first : Bool}
    {seen : List String} {s s' : S} {fuel room : Nat} {k : String} {j : Json} {f : Field S}
    {r r₁ r' : Reader} {more : List UInt8} {out : S × List String}
    (opened : Returns (hasNextKey first) r true r₁)
    (h : r₁.rest = bytes (quote k ++ ":" ++ compact j) ++ more) (ends : Ends more)
    (found : fields.find? (·.name == k) = some f) (fresh : k ∉ seen)
    (reads : Reads (f.read s) j s' room) (deep : room < r₁.depth)
    (next : Returns (record.members fields strict false (k :: seen) s' fuel)
      (r₁.advance (bytes (quote k ++ ":" ++ compact j)).length) out r') :
    Returns (record.members fields strict first seen s (fuel + 1)) r out r' := by
  rw [bytes_member, List.append_assoc, List.cons_append] at h
  have unseen : seen.contains k = false := by simpa using fresh
  rw [record.members]
  refine opened.bind ?_
  refine (returns_key k h).bind ?_
  simp only [found, unseen, Bool.false_eq_true, if_false]
  have atColon := rest_advance h
  refine (returns_colon atColon).bind ?_
  refine (reads (rest_advance_one atColon) ends deep).bind ?_
  rw [bytes_member, List.length_append, List.length_cons] at next
  simpa [advance_advance, Nat.add_assoc, Nat.add_comm 1] using next

theorem returns_members_after {fields : List (Field S)} {strict : Option (List String)} {room : Nat} :
    ∀ {ms : List (String × Json)} {s t : S} {seen : List String} {fuel : Nat} {r : Reader}
      {more : List UInt8}, ReadsMembers fields room ms s t → (ms.map (·.1)).Nodup →
      (∀ m ∈ ms, m.1 ∉ seen) →
      r.rest = ms.flatMap (fun m => 44 :: bytes (quote m.1 ++ ":" ++ compact m.2)) ++ 125 :: more →
      ms.length < fuel → room < r.depth →
      Returns (record.members fields strict false seen s fuel) r (t, (ms.map (·.1)).reverse ++ seen)
        (r.advance (ms.flatMap fun m => 44 :: bytes (quote m.1 ++ ":" ++ compact m.2)).length) := by
  intro ms
  induction ms with
  | nil =>
    intro s t seen fuel r more members _ _ h enough _
    obtain ⟨fuel, rfl⟩ : ∃ f, fuel = f + 1 := ⟨fuel - 1, by simp at enough; omega⟩
    cases members
    rw [record.members]
    refine (returns_hasNextKey_end h false).bind ?_
    exact returns_pure _ _
  | cons m ms ih =>
    obtain ⟨k, j⟩ := m
    intro s t seen fuel r more members keys fresh h enough deep
    obtain ⟨f, found, s', reads, later⟩ := members
    obtain ⟨fuel, rfl⟩ : ∃ f, fuel = f + 1 := ⟨fuel - 1, by simp at enough; omega⟩
    simp only [List.flatMap_cons, List.cons_append, List.append_assoc] at h
    have opened : r.rest = 44 :: 34 :: ((bytes (quote k ++ ":" ++ compact j)).tail ++
        (ms.flatMap (fun m => 44 :: bytes (quote m.1 ++ ":" ++ compact m.2)) ++ 125 :: more)) := by
      rw [h, bytes_member, bytes_quote]
      rfl
    simp only [List.map_cons, List.nodup_cons] at keys
    refine returns_members_step (returns_hasNextKey_comma opened) (rest_advance_one h)
      (ends_separated _ _ 125 more (.inr rfl)) found (fresh (k, j) List.mem_cons_self) reads deep ?_
    have rest := @ih s' t (k :: seen) fuel _ more later keys.2 (fun m held same => ?_)
      (rest_advance (rest_advance_one h)) (by simp at enough; omega) deep
    · simp only [List.map_cons, List.reverse_cons, List.append_assoc, List.singleton_append,
        advance_advance, List.flatMap_cons, List.length_cons, List.length_append] at rest ⊢
      simpa [Nat.add_assoc, Nat.add_comm, Nat.add_left_comm] using rest
    · rcases List.mem_cons.mp same with earlier | before
      · exact keys.1 (earlier ▸ List.mem_map_of_mem held)
      · exact fresh m (List.mem_cons_of_mem _ held) before

/-- An object whose members the fields read, each key once, reads back as the record its finish
makes of the partial record, knowing the keys given. -/
theorem reads_record {expected : String} {fields : List (Field S)} {init t : S}
    {finish : S → Given → Except Error α} {strict : Option (List String)} {ms : List (String × Json)}
    {v : α} {room : Nat} (members : ReadsMembers fields room ms init t) (keys : (ms.map (·.1)).Nodup)
    (finished : finish t (.members (ms.map (·.1)).reverse) = .ok v) :
    Reads (record expected fields init finish strict) (.obj ms) v (room + 1) := by
  intro r more h ends deep
  unfold record
  refine Returns.placing ?_
  rcases ms with _ | ⟨⟨k, j⟩, ms⟩
  · -- the empty object
    cases members
    rw [bytes_obj_nil] at h ⊢
    have opened : r.rest = 123 :: (125 :: more) := h
    refine (returns_skipBlanks (solid_of_rest opened (by decide))).bind ?_
    rw [opened]
    refine (returns_get r).bind ?_
    have inside : ({ r.advance 1 with depth := r.depth - 1 } : Reader).rest = 125 :: more :=
      rest_opened opened
    refine (@returns_bracketed_span _ _ _ _ (init, []) 0 (by omega) ?_
      (returns_endObject inside)).bind ?_
    · rw [record.members]
      exact (returns_hasNextKey_end inside true).bind (returns_pure _ _)
    · exact returns_check finished _
  · -- the first member, then the loop over the others
    obtain ⟨f, found, s', reads, later⟩ := members
    rw [bytes_obj_cons] at h ⊢
    simp only [List.cons_append, List.append_assoc] at h
    refine (returns_skipBlanks (solid_of_rest h (by decide))).bind ?_
    rw [h]
    refine (returns_get r).bind ?_
    have inside : ({ r.advance 1 with depth := r.depth - 1 } : Reader).rest =
        bytes (quote k ++ ":" ++ compact j) ++
          (ms.flatMap (fun m => 44 :: bytes (quote m.1 ++ ":" ++ compact m.2)) ++ 125 :: more) :=
      rest_opened h
    have atKey : ({ r.advance 1 with depth := r.depth - 1 } : Reader).rest =
        34 :: ((bytes (quote k ++ ":" ++ compact j)).tail ++
          (ms.flatMap (fun m => 44 :: bytes (quote m.1 ++ ":" ++ compact m.2)) ++ 125 :: more)) := by
      rw [inside, bytes_member, bytes_quote]
      rfl
    have enough : ((k, j) :: ms).length < r.src.size - r.pos + 1 :=
      length_lt_rest ms (fun m => bytes (quote m.1 ++ ":" ++ compact m.2)) h
    obtain ⟨fuel, fueled⟩ : ∃ f, r.src.size - r.pos + 1 = f + 1 + 1 := ⟨r.src.size - r.pos - 1, by
      simp at enough; omega⟩
    rw [fueled]
    have deeper : room < ({ r.advance 1 with depth := r.depth - 1 } : Reader).depth := by
      simp only
      omega
    simp only [List.map_cons, List.nodup_cons] at keys
    have closing := rest_advance (rest_advance inside)
    rw [advance_advance] at closing
    have total : (123 :: (bytes (quote k ++ ":" ++ compact j) ++
        ms.flatMap (fun m => 44 :: bytes (quote m.1 ++ ":" ++ compact m.2)) ++ [125])).length =
        (bytes (quote k ++ ":" ++ compact j)).length +
          (ms.flatMap fun m => 44 :: bytes (quote m.1 ++ ":" ++ compact m.2)).length + 2 := by
      simp only [List.length_cons, List.length_append, List.length_nil]
    rw [total]
    refine (@returns_bracketed_span _ _ _ _ (t, (ms.map (·.1)).reverse ++ [k]) _ (by omega) ?_
      (returns_endObject closing)).bind ?_
    · refine returns_members_step (returns_hasNextKey_first atKey) inside
        (ends_separated _ _ 125 more (.inr rfl)) found (List.not_mem_nil) reads deeper ?_
      have rest := @returns_members_after S fields strict room ms s' t [k] (fuel + 1) _ more later
        keys.2 (fun m held same => keys.1 (List.mem_singleton.mp same ▸ List.mem_map_of_mem held))
        (rest_advance inside) (by simp at enough; omega) deeper
      rwa [advance_advance] at rest
    · simp only [List.map_cons, List.reverse_cons] at finished
      exact returns_check finished _

end Records

section Variants

variable {α : Type}

theorem returns_choiceName {choices : List (Choice α)} {name : String} {c : Choice α}
    (found : choices.find? (·.name == name) = some c) {r : Reader} {more : List UInt8}
    (h : r.rest = bytes (quote name) ++ more) :
    Returns (choiceName choices) r c (r.advance (bytes (quote name)).length) := by
  unfold choiceName
  refine returns_stringWith ?_ h
  simp only [found]

/-- A choice without content is written as its name. -/
theorem reads_variant_plain {choices : List (Choice α)} {name : String} {v : α}
    (found : choices.find? (·.name == name) = some (.plain name v)) (room : Nat) :
    Reads (variant choices) (.str name) v room := by
  intro r more h _ _
  simp only [compact] at h ⊢
  have opened : r.rest = 34 :: (escapedBytes name.toList ++ [34] ++ more) := by
    rw [h, bytes_quote, List.cons_append]
  unfold variant
  refine (returns_skipBlanks (solid_of_rest opened (by decide))).bind ?_
  rw [opened]
  simp only [List.head?_cons, show ((34 : UInt8) == 123) = false from rfl, Bool.false_eq_true,
    if_false, beq_self_eq_true, if_true]
  exact (returns_choiceName found h).bind (returns_pure _ _)

/-- A choice with content is written as an object of one member, its name. -/
theorem reads_variant_content {choices : List (Choice α)} {name : String} {c : Choice α}
    {read : ReadM α} {j : Json} {v : α} {room : Nat}
    (found : choices.find? (·.name == name) = some c)
    (content : c = .wrapped name read ∨ c = .fields name read) (reads : Reads read j v room) :
    Reads (variant choices) (.obj [(name, j)]) v (room + 1) := by
  intro r more h ends deep
  rw [bytes_obj_cons, List.flatMap_nil, List.append_nil, bytes_member] at h ⊢
  simp only [List.cons_append, List.append_assoc] at h
  unfold variant
  refine (returns_skipBlanks (solid_of_rest h (by decide))).bind ?_
  rw [h]
  simp only [List.head?_cons, beq_self_eq_true, if_true]
  refine (returns_open_ (by omega)).bind ?_
  have inside : ({ r.advance 1 with depth := r.depth - 1 } : Reader).rest =
      bytes (quote name) ++ 58 :: (bytes (compact j) ++ 125 :: more) :=
    rest_opened h
  refine (returns_choiceName found inside).bind ?_
  have atColon := rest_advance inside
  refine (returns_colon atColon).bind ?_
  have deeper : room < ({ r.advance 1 with depth := r.depth - 1 } : Reader).depth := by
    simp only
    omega
  have value := reads (rest_advance_one atColon) (fun b held => by cases held; exact .inr (.inr rfl))
    deeper
  have atEnd := rest_advance (rest_advance_one atColon)
  have total : (123 :: (bytes (quote name) ++ 58 :: bytes (compact j) ++ [125])).length =
      (bytes (quote name)).length + 1 + (bytes (compact j)).length + 1 + 1 := by
    simp only [List.length_cons, List.length_append, List.length_nil]
    omega
  rw [total]
  -- the content, read one level deeper; then the level is given back and the brace closes
  rcases content with rfl | rfl
  all_goals
    refine value.bind ((returns_close _).bind ?_)
    refine (returns_skipBlanks (@solid_of_rest _ 125 more ?_ (by decide))).bind ?_
    · rw [rest_depth]
      exact atEnd
    rw [rest_depth, atEnd]
    refine (returns_eat _).bind ?_
    have back : ({ (((({ r.advance 1 with depth := r.depth - 1 } : Reader).advance
        (bytes (quote name)).length).advance 1).advance (bytes (compact j)).length) with
        depth := r.depth - 1 + 1 } : Reader).advance 1 =
        r.advance ((bytes (quote name)).length + 1 + (bytes (compact j)).length + 1 + 1) := by
      simp only [advance, Reader.mk.injEq, true_and]
      omega
    rw [← back]
    exact returns_pure _ _

end Variants

/-- A value whose compact text reads back wherever it stands reads back from that text as a
whole, when the nesting it needs is within the reader's limit. -/
theorem Reads.run {α : Type} {x : ReadM α} {j : Json} {v : α} {room : Nat}
    (reads : Reads x j v room) (shallow : room < 128) : Decode.run x (compact j) = .ok v := by
  let start : Reader := { src := (compact j).toUTF8 }
  have whole : start.rest = bytes (compact j) ++ [] := by
    simp [start, Reader.rest, bytes, String.toUTF8_eq_toByteArray]
  have ran := reads whole (fun b held => by cases held) shallow
  have done : Returns (do let v ← x; finish; pure v) start v
      (start.advance (bytes (compact j)).length) :=
    ran.bind ((returns_finish (rest_advance whole)).bind (returns_pure _ _))
  show (StateT.run (ExceptT.run (do let v ← x; finish; pure v)) start).1 = .ok v
  rw [done]

end Decode
end ActorSilo.Json
