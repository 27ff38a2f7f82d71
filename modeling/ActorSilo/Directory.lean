import ActorSilo.Identity

/-! # The grain directory

The directory says where each grain lives: a list of activation addresses per grain.
A stateless worker may register many activations; any other grain registers one, and
the first registered address of a grain wins: a later registration with another
activation id learns the winner instead (the same id is accepted again).
Unregistering an address removes the entries of that activation id of the grain.

The directory kept in memory is its own cache, so dropping a cache entry only notes the
grain. Directory partitions are owned by silos; with owners, every grain's partition is
owned by the first of them (owner lists hold one silo, possibly repeated).
-/

namespace ActorSilo

/-- How a single-activation registration ended. -/
inductive Registration where
  | registered (address : ActivationAddress)
  | duplicate (winner : ActivationAddress)
  deriving BEq, Repr, Inhabited

structure Directory where
  /-- Addresses by grain, in the order grains were first registered. -/
  entries : List (GrainId × List ActivationAddress) := []
  owners : List SiloAddress := []
  /-- Grains whose cache entry was dropped, oldest first. -/
  invalidations : List GrainId := []
  deriving Inhabited

namespace Directory

/-- The addresses of a grain, if it has any. -/
def lookup? (d : Directory) (g : GrainId) : Option (List ActivationAddress) :=
  (d.entries.find? (·.1 == g)).map (·.2)

def fullLookup (d : Directory) (g : GrainId) : List ActivationAddress := (d.lookup? g).getD []

/-- Replaces the addresses of a grain; an empty list removes the grain. -/
def setEntry (d : Directory) (g : GrainId) (l : List ActivationAddress) : Directory :=
  if l.isEmpty then { d with entries := d.entries.filter (·.1 != g) }
  else if (d.lookup? g).isSome then
    { d with entries := d.entries.map fun (k, v) => if k == g then (k, l) else (k, v) }
  else { d with entries := d.entries ++ [(g, l)] }

/-- Registers one of possibly many activations of a grain. -/
def register (d : Directory) (a : ActivationAddress) : Directory :=
  let l := d.fullLookup a.grain
  if l.contains a then d else d.setEntry a.grain (l ++ [a])

/-- Registers the single activation of a grain, or names the one that holds it. -/
def registerSingle (d : Directory) (a : ActivationAddress) : Directory × Registration :=
  match d.fullLookup a.grain with
  | e :: _ => if e.activation != a.activation then (d, .duplicate e) else (d, .registered e)
  | [] => (d.setEntry a.grain [a], .registered a)

def unregister (d : Directory) (a : ActivationAddress) : Directory :=
  d.setEntry a.grain ((d.fullLookup a.grain).filter (·.activation != a.activation))

def unregisterMany (d : Directory) (as : List ActivationAddress) : Directory := as.foldl unregister d

def invalidate (d : Directory) (g : GrainId) : Directory :=
  { d with invalidations := d.invalidations ++ [g] }

def primary? (d : Directory) (_g : GrainId) : Option SiloAddress := d.owners.head?

def entryCount (d : Directory) : Nat := d.entries.foldl (fun n e => n + e.2.length) 0

end Directory

end ActorSilo
