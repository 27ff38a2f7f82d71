import ActorSilo.Json.Decode
import ActorSilo.Duration

/-! # Durations as JSON

A duration is written `{"nanos": n, "secs": s}`. It is read from an object with exactly
the members `secs` (below `2^64`) and `nanos` (below `2^32`), or from the array
`[secs, nanos]`. Nanoseconds beyond a second carry into the seconds, and a carry past
the largest second count is refused.
-/

namespace ActorSilo

namespace Duration

open Json

/-- `{"nanos": n, "secs": s}`. -/
def toJson (d : Duration) : Json := .obj [("nanos", .nat d.nanos), ("secs", .nat d.secs)]

def read : ReadM Duration :=
  Decode.record "struct Duration"
    [⟨"secs", fun (_, n) => do pure (← Decode.u64, n)⟩,
     ⟨"nanos", fun (s, _) => do pure (s, ← Decode.u32)⟩]
    (0, 0) finish (some ["secs", "nanos"])
where
  finish : Nat × Nat → Decode.Given → Except Error Duration
    | (secs, nanos), given => do
      given.require "struct Duration" ["secs", "nanos"] 2
      match normalized? secs nanos with
      | some d => pure d
      | none => throw { message := "overflow deserializing Duration" }

end Duration

end ActorSilo
