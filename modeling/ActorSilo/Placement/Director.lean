import ActorSilo.Placement.Strategy
import ActorSilo.Error

/-! # Choosing where a message goes

A message goes to an existing activation when there is one: under the local strategy one of
enough local activations is picked, otherwise the first the directory knows. Else a new activation
goes where the strategy says: the local silo, the local silo when active, an explicit active silo,
or a picked active silo; an unplaced client cannot be placed. The silo picks at random; a `Picker`
stands for any rule that picks one of the candidates.
-/

namespace ActorSilo

/-- What the silo knows when it places a message. -/
structure PlacementView where
  localSilo : SiloAddress
  active : List SiloAddress
  /-- Local activations of the target grain, oldest first. -/
  localActivations : List ActivationAddress

/-- Where a message goes. -/
structure Placement where
  address : ActivationAddress
  isNew : Bool
  strategy : PlacementStrategy
  deriving BEq, Repr, Inhabited

/-- How one of several candidates is picked: the position taken among `n` candidates on draw
`k`, always one of them. -/
structure Picker where
  choose : Nat → Nat → Nat
  choose_lt : ∀ k n, 0 < n → choose k n < n

namespace Picker

def first : Picker := ⟨fun _ _ => 0, fun _ _ pos => pos⟩

/-- The candidate picked from `l` on draw `k`; none when there is none. -/
def pick {α : Type} (p : Picker) (k : Nat) (l : List α) : Option α := l[p.choose k l.length]?

end Picker

namespace Placement

/-- Local activations enough for the local strategy to reuse one. -/
def localWanted (min max : Nat) : Nat := Nat.min (Nat.max min 1) (Nat.max max 1)

/-- The silo for a new activation of `target`, picked by `picker` on draw `k` when any active
silo will do. -/
def chooseSilo (v : PlacementView) (target : GrainId) (picker : Picker) (k : Nat) :
    PlacementStrategy → Except PlacementError SiloAddress
  | .local_ .. => .ok v.localSilo
  | .preferLocal => if v.active.contains v.localSilo then .ok v.localSilo else anyActive
  | .explicit s => if v.active.contains s then .ok s else .error (.noCandidates target)
  | _ => anyActive
where
  anyActive : Except PlacementError SiloAddress :=
    match picker.pick k v.active with
    | some s => .ok s
    | none => .error (.noCandidates target)

/-- Places a message to `target` under `strategy`. `known` is what the directory
says of the grain, read only when the strategy is not local; a new activation gets the
id `fresh`, which is also the draw of `picker`. -/
def place (v : PlacementView) (known : Unit → Except DirectoryError (List ActivationAddress))
    (target : GrainId) (strategy : PlacementStrategy) (picker : Picker) (fresh : Nat) :
    Except PlacementError Placement := do
  let reuse : Option ActivationAddress ← match strategy with
    | .local_ min max =>
      if localWanted min max ≤ v.localActivations.length then
        pure (picker.pick fresh v.localActivations)
      else pure none
    | _ => match known () with
      | .ok l => pure l.head?
      | .error e => throw (.directory e)
  match reuse with
  | some a => pure ⟨a, false, strategy⟩
  | none =>
    if target.isClient then throw (.unregisteredClient target)
    let s ← chooseSilo v target picker fresh strategy
    pure ⟨⟨s, target, fresh⟩, true, strategy⟩

end Placement

end ActorSilo
