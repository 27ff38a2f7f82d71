/-! # Shortest decimal text of a binary64 value

The shortest decimal text of a finite double is the decimal with the fewest significant digits
among the reals that round to it (the interval's ends included when the mantissa is even), the
nearer one on a tie of length, the even digit string on an exact tie. The search tries 1 to 17
digits in `Nat` arithmetic. `Decimal.render` writes JSON numbers and `Decimal.renderMarked` also
names the infinities and NaN.
-/

namespace ActorSilo.Text

/-- A decimal `digits · 10^exponent` with no trailing zero in `digits` (unless zero). -/
structure Decimal where
  digits : Nat
  exponent : Int
  deriving Repr, BEq, DecidableEq

namespace Decimal

/-! ## Exact comparisons -/

/-- Compares `a · 10^k` with `b · 2^e`, as exact rationals. -/
def cmpScaled (a : Nat) (k : Int) (b : Nat) (e : Int) : Ordering :=
  let lhs := a * Nat.pow 10 k.toNat * Nat.pow 2 (-e).toNat
  let rhs := b * Nat.pow 2 e.toNat * Nat.pow 10 (-k).toNat
  compare lhs rhs

/-- `⌊b · 2^e / 10^k⌋`. -/
def floorScaled (b : Nat) (e : Int) (k : Int) : Nat :=
  (b * Nat.pow 2 e.toNat * Nat.pow 10 (-k).toNat) / (Nat.pow 2 (-e).toNat * Nat.pow 10 k.toNat)

/-- Removes trailing zeros of the digit string, moving them into the exponent. -/
def normalize (d : Nat) (k : Int) : Nat → Decimal
  | 0 => ⟨d, k⟩
  | fuel + 1 => if d ≠ 0 ∧ d % 10 = 0 then normalize (d / 10) (k + 1) fuel else ⟨d, k⟩

/-- The number of decimal digits of a positive number. -/
def digitCount (n : Nat) : Nat := (Nat.toDigits 10 n).length

/-! ## The search -/

/-- The interval of a positive finite double: `(m, e, lowGap, inclusive)` with
the value `4m · 2^(e-2)`, the upper end `(4m + 2) · 2^(e-2)` and the lower end
`(4m - lowGap) · 2^(e-2)`. -/
def interval (bits : UInt64) : Nat × Int × Nat × Bool :=
  let frac := (bits &&& 0xFFFFFFFFFFFFF).toNat
  let biased := ((bits >>> 52) &&& 0x7FF).toNat
  let m := if biased = 0 then frac else frac + Nat.pow 2 52
  let e : Int := if biased = 0 then -1074 else (biased : Int) - 1075
  let lowGap := if frac = 0 ∧ biased > 1 then 1 else 2
  (m, e, lowGap, m % 2 = 0)

/-- The decimal exponent `p` with `10^(p-1) ≤ v < 10^p`, for `v = m · 2^e > 0`. -/
def magnitude (m : Nat) (e : Int) : Int :=
  let bits : Int := (Nat.log2 m : Int) + e
  let guess : Int := (bits * 30103) / 100000
  -- the guess is within two of the answer; walk to it
  let rec fix (p : Int) : Nat → Int
    | 0 => p
    | fuel + 1 =>
      if cmpScaled 1 p m e != .gt then fix (p + 1) fuel
      else if cmpScaled 1 (p - 1) m e == .gt then fix (p - 1) fuel
      else p
  fix guess 8

/-- True when `d · 10^k` lies in the rounding interval of the double. -/
def inInterval (m : Nat) (e : Int) (lowGap : Nat) (inclusive : Bool) (d : Nat) (k : Int) :
    Bool :=
  let above := cmpScaled d k (4 * m - lowGap) (e - 2)
  let below := cmpScaled d k (4 * m + 2) (e - 2)
  if inclusive then above != .lt && below != .gt else above == .gt && below == .lt

/-- The shortest decimal of a positive finite double given by its bits. -/
def shortestOfBits (bits : UInt64) : Decimal :=
  let (m, e, lowGap, inclusive) := interval bits
  let p := magnitude m e
  let rec search : Nat → Nat → Decimal
    | _, 0 => normalize m e.toNat 0
    | n, fuel + 1 =>
      let k := p - n
      let d := floorScaled m e k
      let loIn := inInterval m e lowGap inclusive d k
      let hiIn := inInterval m e lowGap inclusive (d + 1) k
      if loIn && hiIn then
        -- the nearer neighbour; a tie goes to the even one
        match cmpScaled (2 * d + 1) k (2 * m) e with
        | .gt => normalize d k 20
        | .lt => normalize (d + 1) k 20
        | .eq => if d % 2 = 0 then normalize d k 20 else normalize (d + 1) k 20
      else if loIn then normalize d k 20
      else if hiIn then normalize (d + 1) k 20
      else search (n + 1) fuel
  search 1 17

/-- The shortest decimal of `|x|` for a finite nonzero `x`. -/
def shortest (x : Float) : Decimal :=
  shortestOfBits (x.toBits &&& 0x7FFFFFFFFFFFFFFF)

/-! ## Renderings -/

/-- `n` zeros. -/
def zeros (n : Nat) : String := String.ofList (List.replicate n '0')

/-- The digits of `d` with a point after the first `kk` of them (`kk` may exceed the
digit count, then zeros are added; it may be at most zero, then `0.` and zeros lead). -/
def positional (ds : String) (kk : Int) (fractionForIntegers : Bool) : String :=
  let len : Int := ds.length
  if kk ≥ len then
    ds ++ zeros (kk - len).toNat ++ (if fractionForIntegers then ".0" else "")
  else if kk > 0 then
    String.ofList (ds.toList.take kk.toNat) ++ "." ++ String.ofList (ds.toList.drop kk.toNat)
  else
    "0." ++ zeros (-kk).toNat ++ ds

/-- Shortest digits, positional for decimal exponents `-5 < kk ≤ 16` (with `.0` on
integers), otherwise scientific with one digit before the point and a signed exponent.
Zero is `0.0`, signed. -/
def render (x : Float) : String :=
  let sign := if x.toBits >>> 63 == 1 then "-" else ""
  if x == 0 then sign ++ "0.0" else
  let d := shortest x
  let ds := toString d.digits
  let len : Int := ds.length
  let kk := len + d.exponent
  let body :=
    if 0 ≤ d.exponent ∧ kk ≤ 16 then positional ds kk true
    else if 0 < kk ∧ kk ≤ 16 then positional ds kk true
    else if -5 < kk ∧ kk ≤ 0 then positional ds kk true
    else
      let exp := if kk - 1 < 0 then toString (kk - 1) else "+" ++ toString (kk - 1)
      if ds.length = 1 then ds ++ "e" ++ exp
      else String.ofList (ds.toList.take 1) ++ "." ++ String.ofList (ds.toList.drop 1) ++ "e" ++ exp
  sign ++ body

/-- The text of a double in messages: its rendering, with infinities and NaN as `inf`,
`-inf` and `NaN`. -/
def renderMarked (x : Float) : String :=
  if x.isNaN then "NaN"
  else if x.isInf then (if x < 0 then "-inf" else "inf")
  else render x


end Decimal

end ActorSilo.Text
