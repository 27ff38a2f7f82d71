import ActorSilo.Executor.Drive
import ActorSilo.Request.Callback
import ActorSilo.Activation.Collector
import ActorSilo.Activation.Registry
import ActorSilo.Directory
import ActorSilo.Storage
import ActorSilo.Membership
import ActorSilo.Random.ChaCha
import ActorSilo.Placement.Director

/-! # The state of a silo

Everything a running silo holds: configuration and grain types, membership, directory, storage
providers, the collection wheel, the fault stream, the registry and every activation record,
outstanding requests and their replies, and the loopback and outbound messages. The grains' own
state is the application part `app : γ`, and `Grains γ` says how grains are made and run. Silo
tasks wait for `Event`s and run the procedures `Proc`.
-/

namespace ActorSilo

/-- What silo tasks wait for. -/
inductive Event where
  | inbound
  /-- The reply to the request with this correlation id reached its caller. -/
  | reply (id : Nat)
  /-- The activation of the record in this slot was destroyed. -/
  | deactivated (slot : Nat)
  deriving BEq, DecidableEq, Repr

/-- The procedures silo tasks run. -/
inductive Proc where
  /-- Receives the messages of the loopback channel, forever. -/
  | pump
  /-- The collection timer: its next tick and period. -/
  | ticker (due : Instant) (period : Duration)
  | collect
  /-- A round of the timer of a request's callback. -/
  | callbackTick (id : Nat) (due : Instant) (period : Duration)
  /-- Finds where a message goes and sends it. -/
  | address (m : Message)
  /-- Brings the activation of a record to life. -/
  | init (slot : Nat)
  /-- Runs the turn of a message on the activation of a record. -/
  | turn (slot : Nat) (m : Message)
  | destroy (slots : List Nat)
  /-- Shuts the activations of records down: now when idle, else once idle. -/
  | shutdown (slots : List Nat) (reason : DeactivationReason)
  /-- Unregisters a vanished activation, then sends the message that found it gone on. -/
  | forward (stale : ActivationAddress) (m : Message)
  /-- Unregisters a vanished activation after a delay. -/
  | unregisterLater (stale : ActivationAddress) (delay : Duration)

/-- The outcome of grain code. -/
inductive Attempt (α : Type) where
  | ok (a : α)
  | failed (e : GrainError)
  | panicked
  deriving Inhabited

/-- What a turn of grain code knows of where it runs. -/
structure GrainContext where
  address : ActivationAddress
  /-- The call chain that requests made by this turn carry. -/
  chain : List CallChainEntry
  slot : Nat
  deriving Inhabited

namespace GrainContext

/-- `GrainContext { address: ActivationAddress { … }, chain: n }`. -/
def structural (c : GrainContext) : String :=
  "GrainContext \x7b address: " ++ c.address.structural ++ ", chain: " ++ toString c.chain.length ++ " \x7d"

end GrainContext

/-- A storage provider: a store read with a fixed latency, unless it is down. -/
structure Provider where
  store : Store := {}
  latency : Duration := .zero
  /-- Why reads fail, when the provider is down. -/
  outage : Option String := none
  deriving Inhabited

/-- Directory operations that fail on purpose, and how. -/
structure Refusals where
  ops : List String := []
  /-- They fail by timing out rather than as unavailable. -/
  timeout : Bool := false
  deriving Inhabited

namespace Refusals

/-- The failure of operation `op`, if it fails. -/
def check (r : Refusals) (op : String) : Except DirectoryError Unit :=
  if r.ops.contains op then
    .error (if r.timeout then .timeout else .unavailable (op ++ " refused"))
  else .ok ()

end Refusals

/-- The state of a silo, with the application's part of type `γ`. -/
structure World (γ : Type) where
  localSilo : SiloAddress
  config : SiloConfig
  types : GrainTypeRegistry
  membership : Membership
  directory : Directory
  refusals : Refusals := {}
  providers : List (String × Provider) := []
  collector : Collector
  /-- The stream injected faults are drawn from. -/
  faults : Random.Generator := .ofSeed 0
  /-- How placement picks among local activations and among active silos. -/
  picker : Picker := .first
  registry : Registry := {}
  /-- The slot of the record of each registered activation id. -/
  registeredSlots : List (Nat × Nat) := []
  /-- Every activation record ever made, by slot; a record is never dropped, since
  tasks may hold on to it after the registry let it go. -/
  records : Array Activation := #[]
  app : γ
  /-- Callbacks of requests whose callers still wait. -/
  callbacks : List Callback := []
  /-- Correlation ids in the table of outstanding requests, oldest first. -/
  pending : List Nat := []
  /-- Replies handed to callers and not yet taken. -/
  replies : List (Nat × Message) := []
  inbound : List Message := []
  /-- Messages sent to other silos, when they have a route. -/
  outbound : Option (List Message) := some []
  /-- The next fresh activation or correlation id. -/
  nextId : Nat := Nat.pow 2 36
  dice : Nat := 0
  inFlight : Nat := 0
  /-- The tasks that receive messages and tick the collection timer, once started. -/
  daemons : List Nat := []
  /-- The catalog hears of membership changes; it does once the silo started. -/
  listening : Bool := false
  /-- How the initialization of each record's activation ended, by slot. -/
  inits : List (Nat × Except ActivationError Unit) := []

/-- How grains of the application behave. -/
class Grains (γ : Type) where
  /-- Makes the grain instance of the activation in a slot; `none` when making it panics. -/
  create : Nat → Activation → γ → Option γ
  /-- The activation hook, with the state read from storage. -/
  onActivate : GrainContext → Option StoredState → Async (World γ) Event Proc (Attempt Unit)
  onDeactivate : GrainContext → DeactivationReason → Async (World γ) Event Proc (Attempt Unit)
  /-- A method: interface id, method id and body. -/
  invoke : GrainContext → Nat → Nat → List UInt8 → Async (World γ) Event Proc (Attempt (List UInt8))

abbrev SiloM (γ α : Type) := Async (World γ) Event Proc α

namespace World

variable {γ : Type}

def record? (w : World γ) (slot : Nat) : Option Activation := w.records[slot]?

def putRecord (w : World γ) (slot : Nat) (a : Activation) : World γ :=
  { w with records := w.records.setIfInBounds slot a }

def addRecord (w : World γ) (a : Activation) : World γ × Nat :=
  ({ w with records := w.records.push a }, w.records.size)

/-- The slot of the record of an activation id: the registered record while the id is
registered, otherwise the newest record of the id. A record made outside the registry
under a registered id does not stand for it. -/
def slotOf? (w : World γ) (id : Nat) : Option Nat :=
  match w.registeredSlots.find? (·.1 == id) with
  | some (_, slot) => some slot
  | none => go w.records.size
where
  go : Nat → Option Nat
    | 0 => none
    | n + 1 => if (w.records[n]?.map (·.id)) == some id then some n else go n

def isRegistered (w : World γ) (id : Nat) : Bool := w.registry.ids.contains id

def findTarget? (w : World γ) (id : Nat) : Option Nat :=
  if w.isRegistered id then w.slotOf? id else none

/-- The slots of a grain's local activations, oldest first. -/
def targetsOf (w : World γ) (g : GrainId) : List Nat := (w.registry.targets g).filterMap w.slotOf?

def allTargets (w : World γ) : List Nat := w.registry.ids.filterMap w.slotOf?

/-- The record of each activation id (see `slotOf?`), the ids in the order of their
newest records, newest first. -/
def newest (w : World γ) : List Activation :=
  let ids := w.records.toList.reverse.foldl (fun acc a => if acc.contains a.id then acc else acc ++ [a.id]) []
  ids.filterMap fun id => (w.slotOf? id).bind w.record?

/-- Stores records back into the slots of their ids (see `slotOf?`). -/
def putNewest (w : World γ) (as : List Activation) : World γ :=
  as.foldl (fun w a => match w.slotOf? a.id with
    | some s => w.putRecord s a
    | none => w) w

def ageLimitOf (w : World γ) (t : GrainType) : Duration :=
  t.ageLimit.getD (w.config.collection.ageLimitFor t.name)

def callback? (w : World γ) (id : Nat) : Option Callback := w.callbacks.find? (·.id == id)

/-- Stores a callback, replacing the one of its id. -/
def putCallback (w : World γ) (cb : Callback) : World γ :=
  { w with callbacks := w.callbacks.map fun c => if c.id == cb.id then cb else c }

/-- A fresh id, and the world that will not hand it out again. -/
def fresh (w : World γ) : World γ × Nat := ({ w with nextId := w.nextId + 1 }, w.nextId)

def status (w : World γ) : SiloStatus := w.membership.current

/-- Silos that take new activations; this one alone when none is known. -/
def activeSilos (w : World γ) : List SiloAddress :=
  match w.membership.active with
  | [] => [w.localSilo]
  | l => l

/-- The local activations of a grain that are not invalid, oldest first. -/
def localActivations (w : World γ) (g : GrainId) : List ActivationAddress :=
  ((w.targetsOf g).filterMap w.record?).filter (·.state != .invalid) |>.map (·.address)

end World

namespace SiloM

variable {γ : Type}

def record? (slot : Nat) : SiloM γ (Option Activation) := do pure ((← Async.get).record? slot)

def changeRecord (slot : Nat) (f : Instant → Activation → Activation) : SiloM γ Unit :=
  Async.modifyAt fun now w =>
    match w.record? slot with
    | some a => w.putRecord slot (f now a)
    | none => w

/-- Changes the record in a slot and reads a result off the change. -/
def withRecord {α : Type} (slot : Nat) (dflt : α) (f : Instant → Activation → Activation × α) :
    SiloM γ α :=
  Async.update fun now w =>
    match w.record? slot with
    | some a => let (a, r) := f now a; (w.putRecord slot a, r)
    | none => (w, dflt)

def freshId : SiloM γ Nat := Async.update fun _ w => w.fresh

def launch (p : Proc) : SiloM γ Unit := do
  let _ ← Async.spawn (Async.call p)

end SiloM

end ActorSilo
