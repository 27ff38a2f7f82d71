import ActorSilo.Proofs.ReaderSteps
import ActorSilo.Json.Write

/-! # Reading back written strings

A string is written as JSON text by `quote`: between quotes, each character escaped by
`escapeChar`. Reading the text back goes byte by byte: the loop of `stringBody` takes a plain
byte as it is and hands a backslash to `escape`, and the bytes it collects are decoded as UTF-8
at the closing quote.

The proof follows the characters of the string. `escapeChar_reads` says what the writer does
with one character: either a backslash escape that `escape` reads back as the character's
UTF-8 bytes (the short escapes and `\u00XX` for the other control characters), or the
character's own bytes, none of which is a quote, a backslash or a control byte. The loop over
the characters (`returns_go_escaped`) then collects the UTF-8 bytes of the whole string, and
`returns_stringBody` decodes them to the string itself.
-/

namespace ActorSilo.Json

/-! ## Bytes of texts -/

/-- The UTF-8 bytes of a text. -/
def bytes (s : String) : List UInt8 := s.toByteArray.data.toList

theorem bytes_append (s t : String) : bytes (s ++ t) = bytes s ++ bytes t := by
  simp [bytes, String.toByteArray_append]

theorem bytes_singleton (c : Char) : bytes (String.singleton c) = String.utf8EncodeChar c := by
  simp [bytes, String.toByteArray_singleton, List.utf8Encode_singleton]

theorem bytes_ofList (cs : List Char) :
    bytes (String.ofList cs) = cs.flatMap String.utf8EncodeChar := by
  simp [bytes, List.utf8Encode]

theorem bytes_join (l : List String) : bytes (String.join l) = l.flatMap bytes := by
  induction l with
  | nil => rfl
  | cons s l ih => rw [String.join_cons, bytes_append, ih, List.flatMap_cons]

/-- The bytes of the characters of a text, each escaped as a JSON string writes it. -/
def escapedBytes (cs : List Char) : List UInt8 := cs.flatMap fun c => bytes (escapeChar c)

theorem escapedBytes_cons (c : Char) (cs : List Char) :
    escapedBytes (c :: cs) = bytes (escapeChar c) ++ escapedBytes cs := List.flatMap_cons

theorem bytes_quote (s : String) : bytes (quote s) = 34 :: (escapedBytes s.toList ++ [34]) := by
  simp only [quote, bytes_append, bytes_join, List.flatMap_map, escapedBytes]
  rfl

theorem length_bytes_quote (s : String) :
    (bytes (quote s)).length = (escapedBytes s.toList).length + 2 := by
  simp [bytes_quote]

theorem fromUTF8?_toByteArray (s : String) : String.fromUTF8? s.toByteArray = some s := by
  unfold String.fromUTF8?
  rw [dif_pos s.isValidUTF8]
  rfl

theorem hexDigit_encoding : ∀ k < 16,
    String.utf8EncodeChar (hexDigit k) = [(hexDigit k).toNat.toUInt8] ∧
      Reader.hexValue? (hexDigit k).toNat.toUInt8 = some k := by
  decide

namespace Reader

theorem length_rest (r : Reader) : r.rest.length = r.src.size - r.pos := by
  unfold rest
  rw [List.length_drop, Array.length_toList, ByteArray.size_data]

theorem byte_at {r : Reader} {bs more : List UInt8} (h : r.rest = bs ++ more) {i : Nat}
    (within : i < bs.length) : r.src.get! (r.pos + i) = bs[i] := by
  have shifted : (r.advance i).rest = bs.drop i ++ more := by
    have split : r.rest = bs.take i ++ (bs.drop i ++ more) := by
      rw [h, ← List.append_assoc, List.take_append_drop]
    have := rest_advance split
    rwa [List.length_take, Nat.min_eq_left (Nat.le_of_lt within)] at this
  rw [List.drop_eq_getElem_cons within, List.cons_append] at shifted
  exact (byte_of_rest shifted).2

/-! ## Escapes -/

theorem returns_hex4 {r : Reader} {b₀ b₁ b₂ b₃ : UInt8} {more : List UInt8}
    (h : r.rest = [b₀, b₁, b₂, b₃] ++ more) {d₀ d₁ d₂ d₃ : Nat}
    (v₀ : hexValue? b₀ = some d₀) (v₁ : hexValue? b₁ = some d₁) (v₂ : hexValue? b₂ = some d₂)
    (v₃ : hexValue? b₃ = some d₃) :
    Returns hex4 r (((d₀ * 16 + d₁) * 16 + d₂) * 16 + d₃) (r.advance 4) := by
  have room : ¬ r.pos + 4 > r.src.size := by
    have total := length_rest r
    rw [h] at total
    simp at total
    omega
  have at₀ : r.src.get! (r.pos + 0) = b₀ := byte_at h (by simp)
  have at₁ : r.src.get! (r.pos + 1) = b₁ := byte_at h (by simp)
  have at₂ : r.src.get! (r.pos + 2) = b₂ := byte_at h (by simp)
  have at₃ : r.src.get! (r.pos + 3) = b₃ := byte_at h (by simp)
  unfold hex4
  refine (returns_get r).bind ?_
  rw [if_neg room]
  -- the four steps of the loop, one digit each
  simp only [Std.Legacy.Range.forIn_eq_forIn_range', Std.Legacy.Range.size]
  simp only [List.range', List.forIn_cons, List.forIn_nil]
  simp only [Nat.zero_mul, Nat.zero_add, Nat.reduceAdd, at₀, at₁, at₂, at₃, v₀, v₁, v₂, v₃,
    pure_bind]
  exact (returns_set _ _).bind (returns_pure _ _)

theorem returns_escape_short {r : Reader} {e x : UInt8} {more : List UInt8} (h : r.rest = e :: more)
    (short : (e, x) ∈ [(34, 34), (92, 92), (98, 8), (102, 12), (110, 10), (114, 13), (116, 9)]) :
    Returns escape r ⟨#[x]⟩ (r.advance 1) := by
  unfold escape
  refine (returns_next? h).bind ?_
  simp only [List.mem_cons, Prod.mk.injEq, List.not_mem_nil, or_false] at short
  rcases short with ⟨rfl, rfl⟩ | ⟨rfl, rfl⟩ | ⟨rfl, rfl⟩ | ⟨rfl, rfl⟩ | ⟨rfl, rfl⟩ | ⟨rfl, rfl⟩ |
    ⟨rfl, rfl⟩ <;> exact returns_pure _ _

/-- A byte that a string holds as it is: not a quote, a backslash or a control byte. -/
def Plain (b : UInt8) : Prop := b ≠ 34 ∧ b ≠ 92 ∧ 32 ≤ b

theorem plain_of_utf8EncodeChar {c : Char} (quote : c ≠ '"') (backslash : c ≠ '\\')
    (printable : 32 ≤ c.toNat) : ∀ b ∈ String.utf8EncodeChar c, Plain b := by
  have q : c.toNat ≠ 34 := fun h => quote (Char.toNat_inj.mp h)
  have s : c.toNat ≠ 92 := fun h => backslash (Char.toNat_inj.mp h)
  have same : c.val.toNat = c.toNat := rfl
  -- one byte below 128; every byte of a longer encoding is at least 128
  intro b mem
  simp only [String.utf8EncodeChar] at mem
  split at mem
  · simp [Plain, UInt8.le_iff_toNat_le, ← UInt8.toNat_inj] at mem ⊢
    omega
  split at mem
  · simp [Plain, UInt8.le_iff_toNat_le, ← UInt8.toNat_inj] at mem ⊢
    omega
  split at mem
  · simp [Plain, UInt8.le_iff_toNat_le, ← UInt8.toNat_inj] at mem ⊢
    omega
  · simp [Plain, UInt8.le_iff_toNat_le, ← UInt8.toNat_inj] at mem ⊢
    omega

/-- Each character is written either as a backslash escape, which `escape` reads back as the
character's UTF-8 bytes, or as those bytes themselves, all of them plain. -/
theorem escapeChar_reads (c : Char) :
    (∃ tail, bytes (escapeChar c) = 92 :: tail ∧ ∀ {r : Reader} {more : List UInt8},
        r.rest = tail ++ more →
          Returns escape r (String.utf8EncodeChar c).toByteArray (r.advance tail.length)) ∨
      (bytes (escapeChar c) = String.utf8EncodeChar c ∧ ∀ b ∈ String.utf8EncodeChar c, Plain b) := by
  unfold escapeChar
  split
  · rename_i quote
    subst quote
    exact .inl ⟨[34], rfl, fun h => returns_escape_short h (by simp)⟩
  split
  · rename_i backslash
    subst backslash
    exact .inl ⟨[92], rfl, fun h => returns_escape_short h (by simp)⟩
  split
  · rename_i newline
    subst newline
    exact .inl ⟨[110], rfl, fun h => returns_escape_short h (by simp)⟩
  split
  · rename_i ret
    subst ret
    exact .inl ⟨[114], rfl, fun h => returns_escape_short h (by simp)⟩
  split
  · rename_i tab
    subst tab
    exact .inl ⟨[116], rfl, fun h => returns_escape_short h (by simp)⟩
  split
  · rename_i backspace
    obtain rfl : c = Char.ofNat 8 := by rw [← backspace, Char.ofNat_toNat]
    exact .inl ⟨[98], rfl, fun h => returns_escape_short h (by simp)⟩
  split
  · rename_i feed
    obtain rfl : c = Char.ofNat 12 := by rw [← feed, Char.ofNat_toNat]
    exact .inl ⟨[102], rfl, fun h => returns_escape_short h (by simp)⟩
  split
  · -- another control character: `\u00` and two hexadecimal digits
    rename_i control
    obtain ⟨high, highValue⟩ := hexDigit_encoding (c.toNat / 16) (by omega)
    obtain ⟨low, lowValue⟩ := hexDigit_encoding (c.toNat % 16) (by omega)
    refine .inl ⟨[117, 48, 48, (hexDigit (c.toNat / 16)).toNat.toUInt8,
      (hexDigit (c.toNat % 16)).toNat.toUInt8], ?_, fun h => ?_⟩
    · simp only [bytes_append, bytes_singleton, high, low]
      rfl
    · unfold escape
      refine (returns_next? h).bind ?_
      simp +decide only [if_false, if_true]
      have zero : hexValue? 48 = some 0 := by decide
      refine (returns_hex4 (rest_advance_one h) zero zero highValue lowValue).bind ?_
      have value : ((0 * 16 + 0) * 16 + c.toNat / 16) * 16 + c.toNat % 16 = c.toNat := by omega
      have encoded : utf8 c.toNat = (String.utf8EncodeChar c).toByteArray := by
        simp [utf8, String.toByteArray_singleton, List.utf8Encode_singleton]
      -- a code point below 32 is no surrogate
      rw [value, if_neg (by omega), if_neg (by omega), encoded, advance_advance]
      exact returns_pure _ _
  · rename_i quote backslash _ _ _ _ _ control
    exact .inr ⟨bytes_singleton c, plain_of_utf8EncodeChar quote backslash (by omega)⟩

/-! ## The string loop -/

theorem push_eq_append (acc : ByteArray) (b : UInt8) : acc.push b = acc ++ [b].toByteArray := by
  apply ByteArray.ext
  simp

theorem plain_step {b : UInt8} (p : Plain b) : (b == 34) = false ∧ (b == 92) = false ∧ ¬ b < 32 :=
  ⟨beq_eq_false_iff_ne.mpr p.1, beq_eq_false_iff_ne.mpr p.2.1, UInt8.not_lt.mpr p.2.2⟩

theorem returns_go_plain {bs more : List UInt8} (plain : ∀ b ∈ bs, Plain b) :
    ∀ {acc : ByteArray} {fuel : Nat} {r : Reader} {out : ByteArray} {r' : Reader},
      r.rest = bs ++ more →
      Returns (stringBody.go (acc ++ bs.toByteArray) fuel) (r.advance bs.length) out r' →
      Returns (stringBody.go acc (fuel + bs.length)) r out r' := by
  induction bs with
  | nil =>
    intro acc fuel r out r' _ later
    simpa using later
  | cons b bs ih =>
    intro acc fuel r out r' h later
    obtain ⟨quote, backslash, control⟩ := plain_step (plain b (by simp))
    rw [List.length_cons, ← Nat.add_assoc, stringBody.go]
    refine (returns_next? h).bind ?_
    simp only [quote, backslash, control, Bool.false_eq_true, if_false]
    refine ih (fun b' held => plain b' (by simp [held])) (rest_advance_one h) ?_
    rw [push_eq_append, ByteArray.append_assoc, ← List.toByteArray_append, advance_advance]
    simpa [Nat.add_comm] using later

/-- The loop reads the escaped characters up to the closing quote, collecting their UTF-8 bytes,
when its fuel outlasts them. -/
theorem returns_go_escaped (cs : List Char) {more : List UInt8} :
    ∀ {acc : ByteArray} {fuel : Nat} {r : Reader}, r.rest = escapedBytes cs ++ 34 :: more →
      (escapedBytes cs).length < fuel →
      Returns (stringBody.go acc fuel) r (acc ++ (cs.flatMap String.utf8EncodeChar).toByteArray)
        (r.advance ((escapedBytes cs).length + 1)) := by
  induction cs with
  | nil =>
    intro acc fuel r h enough
    obtain ⟨fuel, rfl⟩ : ∃ f, fuel = f + 1 := ⟨fuel - 1, by omega⟩
    rw [stringBody.go]
    refine (returns_next? h).bind ?_
    simpa [escapedBytes] using returns_pure acc (r.advance 1)
  | cons c cs ih =>
    intro acc fuel r h enough
    rw [escapedBytes_cons, List.append_assoc] at h
    rw [escapedBytes_cons, List.length_append] at enough ⊢
    rw [List.flatMap_cons, List.toByteArray_append, ← ByteArray.append_assoc]
    rcases escapeChar_reads c with ⟨tail, written, reads⟩ | ⟨written, plain⟩
    · -- a backslash escape: `escape` reads the rest of it, then the loop goes on
      rw [written] at h enough ⊢
      obtain ⟨fuel, rfl⟩ : ∃ f, fuel = f + 1 := ⟨fuel - 1, by omega⟩
      rw [stringBody.go]
      refine (returns_next? h).bind ?_
      simp only [show ((92 : UInt8) == 34) = false from rfl, Bool.false_eq_true, if_false,
        beq_self_eq_true, if_true]
      refine (reads (rest_advance_one h)).bind ?_
      have later := @ih (acc ++ (String.utf8EncodeChar c).toByteArray) fuel _
        (rest_advance (rest_advance_one h)) (by simp at enough; omega)
      have moved : 1 + tail.length + ((escapedBytes cs).length + 1) =
          (92 :: tail).length + (escapedBytes cs).length + 1 := by
        simp only [List.length_cons]
        omega
      rw [advance_advance, advance_advance, moved] at later
      rwa [advance_advance]
    · -- the character's own bytes, none of which ends or escapes the string
      rw [written] at h enough ⊢
      obtain ⟨fuel, rfl⟩ : ∃ f, fuel = f + (String.utf8EncodeChar c).length :=
        ⟨fuel - (String.utf8EncodeChar c).length, by omega⟩
      refine returns_go_plain plain h ?_
      have later := @ih (acc ++ (String.utf8EncodeChar c).toByteArray) fuel _ (rest_advance h)
        (by omega)
      rwa [advance_advance, ← Nat.add_assoc] at later

/-- The body of a string, after its opening quote, reads back as the string. -/
theorem returns_stringBody (s : String) {r : Reader} {more : List UInt8}
    (h : r.rest = escapedBytes s.toList ++ 34 :: more) :
    Returns stringBody r s (r.advance ((escapedBytes s.toList).length + 1)) := by
  -- the fuel, one more than the bytes left, outlasts the string
  have enough : (escapedBytes s.toList).length < r.src.size - r.pos + 1 := by
    have total := length_rest r
    rw [h, List.length_append, List.length_cons] at total
    omega
  have encoded : (s.toList.flatMap String.utf8EncodeChar).toByteArray = s.toByteArray :=
    String.utf8Encode_toList
  unfold stringBody
  refine (returns_get r).bind ?_
  refine (returns_go_escaped s.toList h enough).bind ?_
  rw [ByteArray.empty_append, encoded, fromUTF8?_toByteArray]
  exact returns_pure _ _

theorem returns_key (k : String) {r : Reader} {more : List UInt8}
    (h : r.rest = bytes (quote k) ++ more) : Returns key r k (r.advance (bytes (quote k)).length) := by
  rw [bytes_quote, List.cons_append, List.append_assoc, List.singleton_append] at h
  unfold key
  refine (returns_eat r).bind ?_
  have body := returns_stringBody k (rest_advance_one h)
  rw [advance_advance] at body
  rwa [length_bytes_quote, show (escapedBytes k.toList).length + 2 =
    1 + ((escapedBytes k.toList).length + 1) by omega]

end Reader

end ActorSilo.Json
