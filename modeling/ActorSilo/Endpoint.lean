/-! # Network endpoints

An endpoint is an IPv4 or IPv6 host (with an optional numeric scope) and a port, written
`a.b.c.d:port`, `[groups]:port` or `[groups%scope]:port`. IPv6 groups are lowercase hex without
leading zeros, the first longest run of at least two zero groups is `::`, and an IPv4-mapped
address ends in its dotted quad. Reading accepts exactly these shapes (octets below 256 without
leading zeros, groups of at most four hex digits in either case, scope below `2^32`, port below
`2^16`). Endpoints are ordered IPv4 before IPv6, then by address, port and scope.
-/

namespace ActorSilo

inductive Host where
  /-- An IPv4 address: four octets. -/
  | v4 (octets : List Nat)
  /-- An IPv6 address: eight 16-bit groups, and a scope id (zero for none). -/
  | v6 (groups : List Nat) (scope : Nat)
  deriving BEq, DecidableEq, Repr, Hashable

instance : Inhabited Host := ⟨.v4 [127, 0, 0, 1]⟩

structure Endpoint where
  host : Host := .v4 [127, 0, 0, 1]
  port : Nat
  deriving BEq, DecidableEq, Repr, Inhabited, Hashable

namespace Host

/-! ## Text -/

/-- `a.b.c.d`. -/
def dotted (octets : List Nat) : String := ".".intercalate (octets.map toString)

def hex (n : Nat) : String := String.ofList (Nat.toDigits 16 n)

/-- The first longest run of zero groups, as its start and length. -/
def zeroRun (gs : List Nat) : Nat × Nat :=
  let step (acc : (Nat × Nat) × (Nat × Nat) × Nat) (g : Nat) :=
    let (best, (start, len), i) := acc
    if g = 0 then
      let cur := if len = 0 then (i, 1) else (start, len + 1)
      (if cur.2 > best.2 then cur else best, cur, i + 1)
    else (best, (0, 0), i + 1)
  (gs.foldl step ((0, 0), (0, 0), 0)).1

def hexGroups (gs : List Nat) : String := ":".intercalate (gs.map hex)

/-- The text of eight IPv6 groups. -/
def groupsText (gs : List Nat) : String :=
  match gs with
  | [0, 0, 0, 0, 0, 0xffff, a, b] => "::ffff:" ++ dotted [a / 256, a % 256, b / 256, b % 256]
  | _ =>
    let (start, len) := zeroRun gs
    if len > 1 then hexGroups (gs.take start) ++ "::" ++ hexGroups (gs.drop (start + len))
    else hexGroups gs

example : groupsText [1, 0, 0, 1, 0, 0, 0, 1] = "1:0:0:1::1" := by decide
example : groupsText [0, 0, 0, 0, 0, 0, 0, 1] = "::1" := by decide
example : groupsText [1, 0, 0, 0, 0, 0, 0, 0] = "1::" := by decide
example : groupsText [1, 0, 2, 0, 3, 0, 4, 0] = "1:0:2:0:3:0:4:0" := by decide

end Host

namespace Endpoint

/-- `a.b.c.d:port`, `[groups]:port` or `[groups%scope]:port`. -/
def render (e : Endpoint) : String :=
  match e.host with
  | .v4 os => Host.dotted os ++ ":" ++ toString e.port
  | .v6 gs 0 => "[" ++ Host.groupsText gs ++ "]:" ++ toString e.port
  | .v6 gs s => "[" ++ Host.groupsText gs ++ "%" ++ toString s ++ "]:" ++ toString e.port

/-- IPv4 before IPv6; IPv4 by address then port; IPv6 by address, port, then scope. -/
def cmp (a b : Endpoint) : Ordering :=
  match a.host, b.host with
  | .v4 x, .v4 y => (compare x y).then (compare a.port b.port)
  | .v4 _, .v6 .. => .lt
  | .v6 .., .v4 _ => .gt
  | .v6 x s, .v6 y t => ((compare x y).then (compare a.port b.port)).then (compare s t)

/-! ## Reading -/

/-- A reading step over the characters of a text: the value read and the rest. -/
abbrev Scan (α : Type) := List Char → Option (α × List Char)

/-- The value of a digit in `radix` (10 or 16; hexadecimal letters in either case). -/
def digitValue? (radix : Nat) (c : Char) : Option Nat :=
  let v :=
    if c.isDigit then some (c.toNat - '0'.toNat)
    else if 'a' ≤ c ∧ c ≤ 'f' then some (c.toNat - 'a'.toNat + 10)
    else if 'A' ≤ c ∧ c ≤ 'F' then some (c.toNat - 'A'.toNat + 10)
    else none
  v.filter (· < radix)

/-- A number in `radix`: all the digits that follow, at most `maxDigits` of them when
that is given, no leading zero unless `zeroPrefix`, and a value below `limit`. -/
def number (radix : Nat) (maxDigits : Option Nat) (zeroPrefix : Bool) (limit : Nat) :
    Scan Nat := fun cs =>
  let isDigit (c : Char) := (digitValue? radix c).isSome
  let ds := cs.takeWhile isDigit
  let value := ds.foldl (fun acc c => acc * radix + (digitValue? radix c).getD 0) 0
  if ds.isEmpty then none
  else if maxDigits.any (· < ds.length) then none
  else if !zeroPrefix && ds.head? == some '0' && ds.length > 1 then none
  else if value < limit then some (value, cs.dropWhile isDigit)
  else none

/-- The character `c`. -/
def char (c : Char) : Scan Unit := fun cs =>
  match cs with
  | d :: rest => if d == c then some ((), rest) else none
  | [] => none

/-- An IPv4 octet. -/
def octet : Scan Nat := number 10 (some 3) false 256

/-- A dotted IPv4 address. -/
def ipv4 : Scan (List Nat) := fun cs => do
  let (a, cs) ← octet cs
  let ((), cs) ← char '.' cs
  let (b, cs) ← octet cs
  let ((), cs) ← char '.' cs
  let (c, cs) ← octet cs
  let ((), cs) ← char '.' cs
  let (d, cs) ← octet cs
  pure ([a, b, c, d], cs)

/-- A hexadecimal IPv6 group. -/
def group : Scan Nat := number 16 (some 4) true 65536

/-- The step before the group at index `i`: a colon unless it is the first. -/
def separator (i : Nat) : Scan Unit := fun cs =>
  if i = 0 then some ((), cs) else char ':' cs

/-- At most `n` more IPv6 groups, `i` having been read: a dotted IPv4 address is tried
first where two places are left, then a hexadecimal group. Returns the groups and
whether an IPv4 address ended them; it stops, with nothing taken, where neither reads. -/
def groups : Nat → Nat → List Char → (List Nat × Bool) × List Char
  | 0, _, cs => (([], false), cs)
  | n + 1, i, cs =>
    let quad := if n = 0 then none else do
      let ((), r) ← separator i cs
      ipv4 r
    match quad with
    | some ([a, b, c, d], r) => (([a * 256 + b, c * 256 + d], true), r)
    | _ =>
      match (do let ((), r) ← separator i cs; group r) with
      | some (g, r) =>
        let ((gs, v4), r) := groups n (i + 1) r
        ((g :: gs, v4), r)
      | none => (([], false), cs)

/-- An IPv6 address: eight groups, or the groups before and after one `::`. -/
def ipv6 : Scan (List Nat) := fun cs =>
  let ((head, headV4), cs) := groups 8 0 cs
  if head.length = 8 then some (head, cs)
  else if headV4 then none
  else do
    let ((), cs) ← char ':' cs
    let ((), cs) ← char ':' cs
    let ((tail, _), cs) := groups (8 - (head.length + 1)) 0 cs
    pure (head ++ List.replicate (8 - head.length - tail.length) 0 ++ tail, cs)

/-- `a.b.c.d:port`. -/
def socketV4 : Scan Endpoint := fun cs => do
  let (os, cs) ← ipv4 cs
  let ((), cs) ← char ':' cs
  let (port, cs) ← number 10 none true 65536 cs
  pure ({ host := .v4 os, port }, cs)

/-- `[groups]:port` or `[groups%scope]:port`. -/
def socketV6 : Scan Endpoint := fun cs => do
  let ((), cs) ← char '[' cs
  let (gs, cs) ← ipv6 cs
  let withScope := do
    let ((), r) ← char '%' cs
    number 10 none true (Nat.pow 2 32) r
  let (scope, cs) := withScope.getD (0, cs)
  let ((), cs) ← char ']' cs
  let ((), cs) ← char ':' cs
  let (port, cs) ← number 10 none true 65536 cs
  pure ({ host := .v6 gs scope, port }, cs)

/-- Reads the whole text as an endpoint; an IPv4 reading, when one succeeds, is the only
one tried. -/
def parse? (s : String) : Option Endpoint :=
  let cs := s.toList
  let read := match socketV4 cs with
    | some r => some r
    | none => socketV6 cs
  match read with
  | some (e, []) => some e
  | _ => none

example : ipv6 [':', ':', '1'] = some ([0, 0, 0, 0, 0, 0, 0, 1], []) := by decide
example : ipv6 ['1', ':', ':'] = some ([1, 0, 0, 0, 0, 0, 0, 0], []) := by decide
example : ipv6 [':', ':', '1', '.', '2', '.', '3', '.', '4'] = some ([0, 0, 0, 0, 0, 0, 258, 772], []) := by
  decide
example : ipv6 ['1', '.', '2', '.', '3', '.', '4', ':', ':'] = none := by decide
example : octet ['0', '1'] = none := by decide

end Endpoint

end ActorSilo
