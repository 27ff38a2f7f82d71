import ActorSilo.Identity
import ActorSilo.Duration
import ActorSilo.Message.Flags
import ActorSilo.Placement.Strategy

/-! # Messages

A message is a request (answered by a response with the same correlation id), a
response, or a one-way message. It names its sender and its target (grain, and once
addressed, silo and activation), carries a body or a response, flags, an optional
expiry, the placement strategy for a target that does not exist yet, the causal call
chain used for deadlock detection, how often it was forwarded and resent, and the stale
addresses its receiver should drop from its directory cache.

A response swaps sender and target of its request, keeps the correlation id, interface
and method, copies the cache invalidations and starts with no flags, no expiry and no
forward or resend counted.
-/

namespace ActorSilo

inductive Direction where
  | request
  | response
  | oneWay
  deriving BEq, DecidableEq, Repr, Inhabited

namespace Direction

def name : Direction → String
  | request => "Request"
  | response => "Response"
  | oneWay => "OneWay"

end Direction

inductive RejectionKind where
  /-- A passing condition: the caller may resend. -/
  | transient
  /-- The target cannot be reached without a new placement. -/
  | unrecoverable
  /-- The request was seen before; the caller ignores this answer. -/
  | duplicateRequest
  /-- The target's mailbox is over its hard limit. -/
  | overloaded
  deriving BEq, DecidableEq, Repr, Inhabited

namespace RejectionKind

def name : RejectionKind → String
  | transient => "Transient"
  | unrecoverable => "Unrecoverable"
  | duplicateRequest => "DuplicateRequest"
  | overloaded => "Overloaded"

def all : List RejectionKind := [transient, unrecoverable, duplicateRequest, overloaded]

end RejectionKind

/-- One hop of a causal call chain: the activation that issued a call and the method
it was running. -/
structure CallChainEntry where
  grain : GrainId
  activation : Nat
  interfaceId : Nat
  methodId : Nat
  deriving BEq, DecidableEq, Repr, Inhabited

/-- A failure the application sees in a response. -/
inductive GrainFault where
  /-- The grain method failed with this text. -/
  | application (text : String)
  /-- The request would have closed a cycle; the chain includes the refused hop. -/
  | deadlock (chain : List CallChainEntry)
  | timeout (after : Duration)
  deriving BEq, DecidableEq, Repr, Inhabited

/-- The outcome a response carries. -/
inductive Response where
  | success (body : List UInt8)
  | fault (f : GrainFault)
  | rejection (kind : RejectionKind) (reason : String)
  deriving BEq, DecidableEq, Repr, Inhabited

/-- A message between grains, clients and silos. -/
structure Message where
  id : Nat
  direction : Direction
  sendingSilo : Option SiloAddress := none
  sendingGrain : Option GrainId := none
  sendingActivation : Option Nat := none
  targetSilo : Option SiloAddress := none
  targetGrain : GrainId
  targetActivation : Option Nat := none
  interfaceId : Nat := 0
  methodId : Nat := 0
  body : List UInt8 := []
  response : Option Response := none
  flags : MessageFlags := .empty
  expiresAt : Option Instant := none
  placement : Option PlacementStrategy := none
  isNewPlacement : Bool := false
  callChain : List CallChainEntry := []
  forwardCount : Nat := 0
  resendCount : Nat := 0
  cacheInvalidation : List ActivationAddress := []
  deriving BEq, Repr, Inhabited

namespace Message

/-- A request to `target`. -/
def request (id : Nat) (target : GrainId) (iface method : Nat) (body : List UInt8) : Message :=
  { id, direction := .request, targetGrain := target, interfaceId := iface, methodId := method, body }

/-- A one-way message to `target`. -/
def oneWayTo (id : Nat) (target : GrainId) (iface method : Nat) (body : List UInt8) : Message :=
  { id, direction := .oneWay, targetGrain := target, interfaceId := iface, methodId := method, body }

def isRequestLike (m : Message) : Bool := m.direction != .response

/-- Past its expiry at `now`. -/
def isExpired (m : Message) (now : Instant) : Bool :=
  match m.expiresAt with
  | some e => now > e
  | none => false

def isReadOnly (m : Message) : Bool := m.flags.has MessageFlags.readOnly

def isAlwaysInterleave (m : Message) : Bool := m.flags.has MessageFlags.alwaysInterleave

def isFullyAddressed (m : Message) : Bool := m.targetSilo.isSome && m.targetActivation.isSome

def targetAddress (m : Message) : Option ActivationAddress :=
  match m.targetSilo, m.targetActivation with
  | some s, some a => some ⟨s, m.targetGrain, a⟩
  | _, _ => none

def sendingAddress (m : Message) : Option ActivationAddress :=
  match m.sendingSilo, m.sendingGrain, m.sendingActivation with
  | some s, some g, some a => some ⟨s, g, a⟩
  | _, _, _ => none

def withTargetAddress (m : Message) (a : ActivationAddress) : Message :=
  { m with targetSilo := some a.silo, targetGrain := a.grain, targetActivation := some a.activation }

/-- Forgets the target silo and activation, so that the next send addresses it anew. -/
def clearTargetAddress (m : Message) : Message :=
  { m with targetSilo := none, targetActivation := none, isNewPlacement := false }

/-- Asks the receiver to drop `a` from its directory cache; each address once. -/
def addCacheInvalidation (m : Message) (a : ActivationAddress) : Message :=
  if m.cacheInvalidation.contains a then m else { m with cacheInvalidation := m.cacheInvalidation ++ [a] }

/-- True when the activation already appears on the call chain. -/
def callChainContains (m : Message) (activation : Nat) : Bool :=
  m.callChain.any (·.activation == activation)

/-- The response to this message, carrying `r`. Its own id is `m.id`. -/
def createResponse (m : Message) (r : Response) : Message :=
  { id := m.id
    direction := .response
    sendingSilo := m.targetSilo
    sendingGrain := some m.targetGrain
    sendingActivation := m.targetActivation
    targetSilo := m.sendingSilo
    targetGrain := m.sendingGrain.getD (GrainId.client "anonymous")
    targetActivation := m.sendingActivation
    interfaceId := m.interfaceId
    methodId := m.methodId
    response := some r
    cacheInvalidation := m.cacheInvalidation }

def createRejection (m : Message) (kind : RejectionKind) (reason : String) : Message :=
  m.createResponse (.rejection kind reason)

/-- The rejection kind of a response, if it is a rejection. -/
def rejectionKind (m : Message) : Option RejectionKind :=
  match m.response with
  | some (.rejection k _) => some k
  | _ => none

/-- `Request corr-… 1.2 -> grain/… act-… MessageFlags(…)`. -/
def render (m : Message) : String :=
  m.direction.name ++ " " ++ correlationText m.id ++ " " ++ toString m.interfaceId ++ "." ++
    toString m.methodId ++ " -> " ++ m.targetGrain.render ++
    (match m.targetActivation with
     | some a => " " ++ activationText a
     | none => "") ++
    (if m.flags.isEmpty then "" else " " ++ m.flags.structural)

end Message

end ActorSilo
