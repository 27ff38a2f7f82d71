import ActorSilo.Text.Hex
import ActorSilo.Text.Quoted
import ActorSilo.Endpoint

/-! # Identities of silos, grains and activations

A grain is a logical actor: a type code, a key and a kind (an ordinary grain, a client
pseudo-grain standing for an outside caller, or a system grain). An activation is one
in-memory instance of a grain on one silo; the triple of silo, grain and activation id
is an `ActivationAddress`. Requests are matched to their responses by a
`CorrelationId`.

Each identity has a display text (`S127.0.0.1:11111@1`, `grain/0x00000001/alice`,
`act-000000000000002a`, `corr-0000000000000007`) and a structural text that spells out
its fields (`SiloAddress { endpoint: 127.0.0.1:1, generation: 1 }`). Identities are
ordered field by field: silos by endpoint (`Endpoint.cmp`) and generation; grains by type code,
key and kind, with ordinary grains before clients before system grains.
-/

namespace ActorSilo

/-- A silo: its endpoint and the generation of the process listening there. -/
structure SiloAddress where
  endpoint : Endpoint
  generation : Nat
  deriving BEq, DecidableEq, Repr, Inhabited, Hashable

namespace SiloAddress

/-- The silo on the loopback address at `port`. -/
def localhost (port generation : Nat) : SiloAddress := ⟨{ port }, generation⟩

/-- `S127.0.0.1:port@generation`. -/
def render (s : SiloAddress) : String := "S" ++ s.endpoint.render ++ "@" ++ toString s.generation

/-- `SiloAddress { endpoint: …, generation: … }`. -/
def structural (s : SiloAddress) : String :=
  "SiloAddress \x7b endpoint: " ++ s.endpoint.render ++ ", generation: " ++ toString s.generation ++ " \x7d"

def cmp (a b : SiloAddress) : Ordering :=
  (a.endpoint.cmp b.endpoint).then (compare a.generation b.generation)

end SiloAddress

/-- What a grain identity stands for. -/
inductive GrainKind where
  | grain
  | client
  | system
  deriving BEq, DecidableEq, Repr, Inhabited, Hashable

namespace GrainKind

def rank : GrainKind → Nat
  | grain => 0
  | client => 1
  | system => 2

def name : GrainKind → String
  | grain => "Grain"
  | client => "Client"
  | system => "System"

def prefixText : GrainKind → String
  | grain => "grain"
  | client => "client"
  | system => "sys"

end GrainKind

/-- A grain: type code, key and kind. -/
structure GrainId where
  grainType : Nat
  key : String
  kind : GrainKind := .grain
  deriving BEq, DecidableEq, Repr, Inhabited, Hashable

namespace GrainId

/-- The client pseudo-grain of an outside caller; clients have type code 0. -/
def client (key : String) : GrainId := ⟨0, key, .client⟩

def isClient (g : GrainId) : Bool := g.kind == .client

def isSystem (g : GrainId) : Bool := g.kind == .system

/-- The type code in display text: `0x` and at least eight hexadecimal digits. -/
def typeText (t : Nat) : String := "0x" ++ Text.hexPadded 8 t

/-- `prefix/0xTTTTTTTT/key`. -/
def render (g : GrainId) : String := g.kind.prefixText ++ "/" ++ typeText g.grainType ++ "/" ++ g.key

/-- `GrainId { grain_type: GrainType(t), key: "…", kind: … }`. -/
def structural (g : GrainId) : String :=
  "GrainId \x7b grain_type: GrainType(" ++ toString g.grainType ++ "), key: " ++ Text.quoted g.key ++
    ", kind: " ++ g.kind.name ++ " \x7d"

def cmp (a b : GrainId) : Ordering :=
  (compare a.grainType b.grainType).then ((compare a.key b.key).then (compare a.kind.rank b.kind.rank))

end GrainId

/-- The display text of an activation id: `act-` and sixteen hexadecimal digits. -/
def activationText (id : Nat) : String := "act-" ++ Text.hexPadded 16 id

/-- The display text of a correlation id: `corr-` and sixteen hexadecimal digits. -/
def correlationText (id : Nat) : String := "corr-" ++ Text.hexPadded 16 id

/-- An activation: silo, grain and activation id. -/
structure ActivationAddress where
  silo : SiloAddress
  grain : GrainId
  activation : Nat
  deriving BEq, DecidableEq, Repr, Inhabited, Hashable

namespace ActivationAddress

/-- `[silo grain act-…]`. -/
def render (a : ActivationAddress) : String :=
  "[" ++ a.silo.render ++ " " ++ a.grain.render ++ " " ++ activationText a.activation ++ "]"

/-- `ActivationAddress { silo: …, grain: …, activation: ActivationId(n) }`. -/
def structural (a : ActivationAddress) : String :=
  "ActivationAddress \x7b silo: " ++ a.silo.structural ++ ", grain: " ++ a.grain.structural ++
    ", activation: ActivationId(" ++ toString a.activation ++ ") \x7d"

end ActivationAddress

end ActorSilo
