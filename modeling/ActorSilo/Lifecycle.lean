/-! # Lifecycles of activations and silos

An activation moves through `create → activating → inactive → deactivating → invalid`.
The failure shortcuts go from `create` or `activating` straight to `deactivating`, and
from any state but `invalid` straight to `invalid`; nothing leaves `invalid`. Only an
`inactive` activation (idle or running turns) accepts work.

A silo's status runs from `created` and `joining` to `active`, then through the
terminating statuses `shuttingDown`, `stopping` and `dead`.
-/

namespace ActorSilo

/-- Lifecycle state of an activation, in the order of its life. -/
inductive ActivationState where
  | create
  | activating
  | inactive
  | deactivating
  | invalid
  deriving BEq, DecidableEq, Repr, Inhabited

namespace ActivationState

/-- The position of a state in the order of its life. -/
def rank : ActivationState → Nat
  | create => 0
  | activating => 1
  | inactive => 2
  | deactivating => 3
  | invalid => 4

def canMoveTo : ActivationState → ActivationState → Bool
  | create, activating => true
  | activating, inactive => true
  | inactive, deactivating => true
  | create, deactivating => true
  | activating, deactivating => true
  | invalid, invalid => false
  | _, invalid => true
  | _, _ => false

def isUsable : ActivationState → Bool
  | inactive => true
  | _ => false

/-- Nothing leaves `invalid`. -/
def isTerminal : ActivationState → Bool
  | invalid => true
  | _ => false

def name : ActivationState → String
  | create => "Create"
  | activating => "Activating"
  | inactive => "Inactive"
  | deactivating => "Deactivating"
  | invalid => "Invalid"

def all : List ActivationState := [create, activating, inactive, deactivating, invalid]

end ActivationState

inductive DeactivationReason where
  | idleCollection
  | explicitRequest
  | applicationRequest
  | directoryOwnerLost
  | siloShutdown
  deriving BEq, DecidableEq, Repr, Inhabited

namespace DeactivationReason

/-- Every reason but the grain's own request comes from the runtime. -/
def isRuntimeInitiated : DeactivationReason → Bool
  | applicationRequest => false
  | _ => true

def name : DeactivationReason → String
  | idleCollection => "IdleCollection"
  | explicitRequest => "ExplicitRequest"
  | applicationRequest => "ApplicationRequest"
  | directoryOwnerLost => "DirectoryOwnerLost"
  | siloShutdown => "SiloShutdown"

def all : List DeactivationReason :=
  [idleCollection, explicitRequest, applicationRequest, directoryOwnerLost, siloShutdown]

end DeactivationReason

inductive SiloStatus where
  | created
  | joining
  | active
  | shuttingDown
  | stopping
  | dead
  deriving BEq, DecidableEq, Repr, Inhabited

namespace SiloStatus

/-- A silo that is shutting down, stopping or dead. -/
def isTerminating : SiloStatus → Bool
  | shuttingDown | stopping | dead => true
  | _ => false

def name : SiloStatus → String
  | created => "Created"
  | joining => "Joining"
  | active => "Active"
  | shuttingDown => "ShuttingDown"
  | stopping => "Stopping"
  | dead => "Dead"

def all : List SiloStatus := [created, joining, active, shuttingDown, stopping, dead]

end SiloStatus

end ActorSilo
