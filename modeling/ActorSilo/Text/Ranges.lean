/-! # Code point ranges

Character classes are written as lists of inclusive code point ranges in ascending order.
A class is a list of parts, each a definition of its own, so that no single literal grows
too long to elaborate quickly.
-/

namespace ActorSilo.Text

abbrev Ranges := List (Nat × Nat)

/-- True when `n` lies in one of the ranges. -/
def Ranges.contains (rs : Ranges) (n : Nat) : Bool :=
  rs.any fun (lo, hi) => lo ≤ n && n ≤ hi

theorem Ranges.contains_iff (rs : Ranges) (n : Nat) :
    rs.contains n = true ↔ ∃ r ∈ rs, r.1 ≤ n ∧ n ≤ r.2 := by
  simp [Ranges.contains]

end ActorSilo.Text
