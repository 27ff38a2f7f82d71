import ActorSilo.Error

/-! # Method tables

A grain may dispatch its calls through a table keyed by interface and method id.
Adding a method under a key it already has replaces the earlier one; a call to a key
that is not in the table fails as an unknown method.
-/

namespace ActorSilo

/-- Methods by interface and method id. -/
structure MethodTable (β : Type) where
  methods : List ((Nat × Nat) × β) := []

namespace MethodTable

variable {β : Type}

/-- Adds a method, replacing the one under the same key. -/
def add (t : MethodTable β) (iface method : Nat) (f : β) : MethodTable β :=
  ⟨t.methods.filter (·.1 != (iface, method)) ++ [((iface, method), f)]⟩

def dispatch (t : MethodTable β) (iface method : Nat) : Except GrainError β :=
  match t.methods.find? (·.1 == (iface, method)) with
  | some (_, f) => .ok f
  | none => .error (.unknownMethod iface method)

/-- `MethodTable { methods: n }`, with the number of keys. -/
def structural (t : MethodTable β) : String :=
  "MethodTable \x7b methods: " ++ toString t.methods.length ++ " \x7d"

end MethodTable

end ActorSilo
