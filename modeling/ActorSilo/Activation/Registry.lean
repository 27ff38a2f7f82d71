import ActorSilo.Activation.Record

/-! # The local activation registry

The registry lists the activations a silo hosts: by id, by grain (oldest first) and, for
statistics, how many there are of each grain type name. Recording an activation twice
changes nothing; removing one that is not recorded says so.

The registry holds activation ids; the records themselves are kept by their owner.
-/

namespace ActorSilo

/-- The activations hosted by a silo. -/
structure Registry where
  ids : List Nat := []
  /-- Ids by grain, oldest first; grains without activations are dropped. -/
  byGrain : List (GrainId × List Nat) := []
  /-- Activations by grain type name; names without activations are dropped. -/
  perType : List (String × Nat) := []
  deriving Inhabited

namespace Registry

def count (r : Registry) : Nat := r.ids.length

def find? (r : Registry) (id : Nat) : Option Nat := if r.ids.contains id then some id else none

def targets (r : Registry) (g : GrainId) : List Nat :=
  ((r.byGrain.find? (·.1 == g)).map (·.2)).getD []

/-- Replaces the ids of a grain; an empty list drops the grain. -/
def setTargets (r : Registry) (g : GrainId) (ids : List Nat) : Registry :=
  let rest := r.byGrain.filter (·.1 != g)
  if ids.isEmpty then { r with byGrain := rest }
  else if (r.byGrain.find? (·.1 == g)).isSome then
    { r with byGrain := r.byGrain.map fun (k, v) => if k == g then (k, ids) else (k, v) }
  else { r with byGrain := r.byGrain ++ [(g, ids)] }

/-- Moves the count of a type name up or down by one; a count that reaches zero drops
the name. -/
def bump (counts : List (String × Nat)) (name : String) (up : Bool) : List (String × Nat) :=
  let now := ((counts.find? (·.1 == name)).map (·.2)).getD 0
  let next := if up then now + 1 else now - 1
  let rest := counts.filter (·.1 != name)
  if next == 0 then rest else rest ++ [(name, next)]

def record (r : Registry) (a : Activation) : Registry :=
  if r.ids.contains a.id then r
  else
    let r := { r with ids := r.ids ++ [a.id], perType := bump r.perType a.grainType.name true }
    r.setTargets a.grain (r.targets a.grain ++ [a.id])

def remove (r : Registry) (a : Activation) : Registry × Bool :=
  if !r.ids.contains a.id then (r, false)
  else
    let r := { r with ids := r.ids.erase a.id, perType := bump r.perType a.grainType.name false }
    (r.setTargets a.grain ((r.targets a.grain).filter (· != a.id)), true)

def typeCounts (r : Registry) : List (String × Nat) :=
  r.perType.mergeSort fun a b => decide (a.1 < b.1) || (a.1 == b.1 && decide (a.2 ≤ b.2))

end Registry

end ActorSilo
