import ActorSilo.Identity

/-! # Placement strategies

A grain type declares where its new activations go: on a random active silo, on the
local silo when it is active, locally with between `min` and `max` activations per silo
(stateless workers), by load, on one named silo, or by graph partition. Only the local
strategy allows several activations of one grain.
-/

namespace ActorSilo

/-- Where new activations of a grain type are placed. -/
inductive PlacementStrategy where
  | random
  | preferLocal
  | local_ (min max : Nat)
  | loadAware
  | explicit (silo : SiloAddress)
  | graphPartition
  deriving BEq, DecidableEq, Repr, Inhabited

namespace PlacementStrategy

/-- The strategy taken where neither the message nor a grain type names one: a random
active silo. -/
def fallback : PlacementStrategy := random

/-- Only the local strategy allows several activations of one grain. -/
def isMultiActivation : PlacementStrategy → Bool
  | local_ .. => true
  | _ => false

/-- The structural text of a strategy (`Local { min: 1, max: 8 }`). -/
def structural : PlacementStrategy → String
  | random => "Random"
  | preferLocal => "PreferLocal"
  | local_ min max => "Local \x7b min: " ++ toString min ++ ", max: " ++ toString max ++ " \x7d"
  | loadAware => "LoadAware"
  | explicit silo => "Explicit(" ++ silo.structural ++ ")"
  | graphPartition => "GraphPartition"

end PlacementStrategy

end ActorSilo
