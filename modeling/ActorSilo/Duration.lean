/-! # Durations and instants

A `Duration` is a whole number of seconds below `2^64` and a number of nanoseconds below
one second. An `Instant` is a point of the silo's clock, in nanoseconds since the clock
started. The clock counts on from the host's monotonic clock, which read an hour when the
silo's clock started and reaches at most `2^63 - 1` seconds; adding a duration to an
instant fails past that.

The diagnostic text of a duration uses the largest unit that is at least one (`s`,
`ms`, `µs`, `ns`) with the remainder as a decimal fraction without trailing zeros:
`30s`, `1.5s`, `30.001s`, `300ms`, `1.000001ms`, `0ns`.
-/

namespace ActorSilo

def nanosPerSec : Nat := 1000000000

/-- A span of time: whole seconds and the nanoseconds beyond them. -/
structure Duration where
  secs : Nat
  nanos : Nat
  deriving BEq, DecidableEq, Repr, Inhabited, Hashable

namespace Duration

def zero : Duration := ⟨0, 0⟩

/-- The longest duration: `2^64 - 1` seconds and `999999999` nanoseconds. -/
def max : Duration := ⟨Nat.pow 2 64 - 1, nanosPerSec - 1⟩

def ofNanos (n : Nat) : Duration := ⟨n / nanosPerSec, n % nanosPerSec⟩

def ofMillis (ms : Nat) : Duration := ⟨ms / 1000, ms % 1000 * 1000000⟩

def ofSecs (s : Nat) : Duration := ⟨s, 0⟩

def toNanos (d : Duration) : Nat := nanosPerSec * d.secs + d.nanos

def toMillis (d : Duration) : Nat := d.toNanos / 1000000

/-- The whole milliseconds of a duration as a 64-bit word: their count, at most
`2^64 - 1`. -/
def millisCapped (d : Duration) : Nat := min d.toMillis (Nat.pow 2 64 - 1)

def isZero (d : Duration) : Bool := d.secs == 0 && d.nanos == 0

instance : LT Duration := ⟨fun a b => a.toNanos < b.toNanos⟩
instance : LE Duration := ⟨fun a b => a.toNanos ≤ b.toNanos⟩
instance (a b : Duration) : Decidable (a < b) := inferInstanceAs (Decidable (a.toNanos < b.toNanos))
instance (a b : Duration) : Decidable (a ≤ b) := inferInstanceAs (Decidable (a.toNanos ≤ b.toNanos))

/-- Seconds and nanoseconds as given, the nanoseconds beyond a second carried over;
`none` when the seconds overflow. -/
def normalized? (secs nanos : Nat) : Option Duration :=
  let s := secs + nanos / nanosPerSec
  if s < Nat.pow 2 64 then some ⟨s, nanos % nanosPerSec⟩ else none

/-- A duration divided by a whole number, rounded down to whole nanoseconds. -/
def divBy (d : Duration) (k : Nat) : Duration := ofNanos (d.toNanos / k)

/-- The decimal digits of a fraction `frac / (10 · unit)`, trailing zeros dropped. -/
def fractionDigits (frac unit : Nat) : String :=
  let rec go (f u : Nat) : Nat → List Char
    | 0 => []
    | fuel + 1 =>
      if f = 0 ∨ u = 0 then []
      else Char.ofNat (48 + f / u) :: go (f % u) (u / 10) fuel
  String.ofList (go frac unit 10)

/-- `whole` followed by the fraction `frac` of a unit of `10 · tenth` and the suffix. -/
def decimalText (whole frac tenth : Nat) (suffix : String) : String :=
  let fracText := fractionDigits frac tenth
  toString whole ++ (if fracText.isEmpty then "" else "." ++ fracText) ++ suffix

/-- The diagnostic text of a duration (`1.5s`, `300ms`, `0ns`). -/
def render (d : Duration) : String :=
  if d.secs > 0 then decimalText d.secs d.nanos 100000000 "s"
  else if d.nanos ≥ 1000000 then decimalText (d.nanos / 1000000) (d.nanos % 1000000) 100000 "ms"
  else if d.nanos ≥ 1000 then decimalText (d.nanos / 1000) (d.nanos % 1000) 100 "µs"
  else toString d.nanos ++ "ns"

end Duration

/-- A point of the silo's clock: nanoseconds since the clock started. -/
abbrev Instant := Nat

namespace Instant

/-- The host's monotonic clock, in seconds, when the silo's clock started. -/
def originSecs : Nat := 3600

def limitSecs : Nat := Nat.pow 2 63 - 1 - originSecs

/-- `t + d`, or `none` when it passes the clock's range. -/
def add? (t : Instant) (d : Duration) : Option Instant :=
  let r := t + d.toNanos
  if r / nanosPerSec > limitSecs then none else some r

/-- The time from `earlier` to `t`, zero if `earlier` is later. -/
def since (t earlier : Instant) : Duration := Duration.ofNanos (t - earlier)

def millis (t : Instant) : Nat := t / 1000000

end Instant

/-- A point past the end of the clock was asked for; nothing can go on after that. -/
structure ClockOverflow where
  deriving Inhabited, BEq

namespace ClockOverflow

def message : String := "overflow when adding duration to instant"

end ClockOverflow

/-- `t + d`, failing past the end of the clock. -/
def Instant.after (t : Instant) (d : Duration) : Except ClockOverflow Instant :=
  match t.add? d with
  | some r => .ok r
  | none => .error {}

/-- Thirty years: the longest wait for a length of time. -/
def Duration.farFuture : Duration := .ofSecs (86400 * 365 * 30)

/-- When a wait of `d` that starts at `t` ends: `t + d`, but at most thirty years on (also
when `t + d` is past the clock's range). -/
def Instant.wake (t : Instant) (d : Duration) : Instant :=
  if Duration.farFuture < d then t + Duration.farFuture.toNanos
  else (t.add? d).getD (t + Duration.farFuture.toNanos)

/-- The tick after the one due at `due` of a timer that ticks every `period`, the tick
being handled at `now`: one period after `due`, but thirty years after `now` when the
period is longer than that or the tick would be past the clock's range. -/
def Instant.nextTick (due now : Instant) (period : Duration) : Instant :=
  if Duration.farFuture < period then now + Duration.farFuture.toNanos
  else (due.add? period).getD (now + Duration.farFuture.toNanos)

example : Instant.wake 0 (.ofMillis 946080000001) = 946080000000 * 1000000 := by decide
example : Instant.nextTick 5 7 (.ofSecs 1) = 1000000005 := by decide

end ActorSilo
