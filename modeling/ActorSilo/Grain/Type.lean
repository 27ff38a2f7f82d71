import ActorSilo.Placement.Strategy
import ActorSilo.Duration
import ActorSilo.Text.Quoted

/-! # Grain types

Every grain type is described once, when the silo is built: its code and name, whether
any two of its turns may interleave (reentrant), whether it is a stateless worker (many
local activations, no single-activation registration), where new activations go, the
storage provider its state is read from, and an idle age limit that overrides the
configured ones. A type is placed on the caller's silo when possible unless it says
otherwise; a stateless worker of up to `max` activations is placed locally, between one
and `max` activations.

The registry of a silo maps type codes to types; registering a code again replaces
the earlier type.
-/

namespace ActorSilo

structure GrainType where
  code : Nat
  name : String
  reentrant : Bool := false
  statelessWorker : Bool := false
  placement : PlacementStrategy := .preferLocal
  storageProvider : Option String := none
  ageLimit : Option Duration := none
  deriving BEq, Repr, Inhabited

namespace GrainType

/-- Marks the type as a stateless worker of at most `max` local activations. -/
def withWorkers (t : GrainType) (max : Nat) : GrainType :=
  { t with statelessWorker := true, placement := .local_ 1 max }

/-- `GrainTypeData { grain_type: GrainType(c), name: "…", … }`. -/
def structural (t : GrainType) : String :=
  "GrainTypeData \x7b grain_type: GrainType(" ++ toString t.code ++ "), name: " ++ Text.quoted t.name ++
    ", reentrant: " ++ toString t.reentrant ++ ", stateless_worker: " ++ toString t.statelessWorker ++
    ", placement: " ++ t.placement.structural ++ ", storage_provider: " ++
    (match t.storageProvider with
     | some p => "Some(" ++ Text.quoted p ++ ")"
     | none => "None") ++
    ", collection_age_limit: " ++
    (match t.ageLimit with
     | some d => "Some(" ++ d.render ++ ")"
     | none => "None") ++ " \x7d"

end GrainType

/-- The grain types of a silo, one per code, in registration order. -/
structure GrainTypeRegistry where
  types : List GrainType := []
  deriving Inhabited

namespace GrainTypeRegistry

/-- Registers a type, replacing the type of the same code. -/
def register (r : GrainTypeRegistry) (t : GrainType) : GrainTypeRegistry :=
  ⟨r.types.filter (·.code != t.code) ++ [t]⟩

def get? (r : GrainTypeRegistry) (code : Nat) : Option GrainType :=
  r.types.find? (·.code == code)

def size (r : GrainTypeRegistry) : Nat := r.types.length

def isEmpty (r : GrainTypeRegistry) : Bool := r.types.isEmpty

/-- The registry of the given types, later ones replacing earlier ones of their code. -/
def ofList (ts : List GrainType) : GrainTypeRegistry := ts.foldl register {}

end GrainTypeRegistry

end ActorSilo
