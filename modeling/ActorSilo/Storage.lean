import ActorSilo.Error

/-! # Grain state storage

A store keeps the serialized state of grains by type name and grain, each with a
version tag (an etag). Tags are the decimal numbers 1, 2, … of the store's successful
writes, counted in a 64-bit word that wraps: the write after 2^64 - 1 of them is tagged 0,
and the count starts over. A write or a clear that names a tag goes through only when the
stored state has exactly that tag; one that names no tag always goes through.

Stores are registered under names; a grain type names the store it reads from.
-/

namespace ActorSilo

structure StoredState where
  data : List UInt8
  etag : String
  deriving BEq, Repr, Inhabited

structure Store where
  entries : List ((String × GrainId) × StoredState) := []
  /-- Successful writes so far, modulo 2^64. -/
  writes : UInt64 := 0
  deriving Inhabited

namespace Store

def read? (s : Store) (typeName : String) (g : GrainId) : Option StoredState :=
  (s.entries.find? (·.1 == (typeName, g))).map (·.2)

/-- The check that `expected`, if given, is the stored tag. -/
def checkTag (current : Option StoredState) (expected : Option String) : Except StorageError Unit :=
  match expected, current with
  | none, _ => .ok ()
  | some e, some c => if c.etag == e then .ok () else .error (.etagMismatch (some e) (some c.etag))
  | some e, none => .error (.etagMismatch (some e) none)

/-- Writes the state of a grain: the new tag. -/
def write (s : Store) (typeName : String) (g : GrainId) (data : List UInt8) (expected : Option String) :
    Except StorageError (Store × String) := do
  checkTag (s.read? typeName g) expected
  let tag := toString (s.writes + 1).toNat
  let rest := s.entries.filter (·.1 != (typeName, g))
  pure ({ entries := rest ++ [((typeName, g), ⟨data, tag⟩)], writes := s.writes + 1 }, tag)

def clear (s : Store) (typeName : String) (g : GrainId) (expected : Option String) :
    Except StorageError Store := do
  checkTag (s.read? typeName g) expected
  pure { s with entries := s.entries.filter (·.1 != (typeName, g)) }

inductive Call where
  | read (typeName : String) (g : GrainId)
  | write (typeName : String) (g : GrainId) (data : List UInt8) (expected : Option String)
  | clear (typeName : String) (g : GrainId) (expected : Option String)

inductive Reply where
  /-- The stored state, if there is one. -/
  | state (st : Option StoredState)
  | written (tag : String)
  | cleared
  | refused (e : StorageError)

/-- Makes a call: the store after it and the answer. A refused call leaves the store as it
was. -/
def call (s : Store) : Call → Store × Reply
  | .read typeName g => (s, .state (s.read? typeName g))
  | .write typeName g data expected =>
    match s.write typeName g data expected with
    | .ok (s', tag) => (s', .written tag)
    | .error e => (s, .refused e)
  | .clear typeName g expected =>
    match s.clear typeName g expected with
    | .ok s' => (s', .cleared)
    | .error e => (s, .refused e)

/-- Registers a store under `name`; a store registered earlier under that name is
replaced. -/
def register {σ : Type} (stores : List (String × σ)) (name : String) (s : σ) : List (String × σ) :=
  stores.filter (·.1 != name) ++ [(name, s)]

/-- The store registered under `name`, among stores registered by name. -/
def named {σ : Type} (stores : List (String × σ)) (name : String) : Except StorageError σ :=
  match stores.find? (·.1 == name) with
  | some (_, s) => .ok s
  | none => .error (.unknownProvider name)

end Store

end ActorSilo
