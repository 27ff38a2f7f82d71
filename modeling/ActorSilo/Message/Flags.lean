/-! # Message flags

Four flags steer how a request runs: read-only requests may run beside other read-only
turns, always-interleave requests beside any turn, local-only messages are never
forwarded to another silo, and a turn flagged suppress-keep-alive does not count as
activity for idle collection. Flags are a 16-bit word whose unknown bits are dropped.
-/

namespace ActorSilo

/-- The flags of a message, as a word of four known bits. -/
structure MessageFlags where
  bits : Nat
  deriving BEq, DecidableEq, Repr, Inhabited, Hashable

namespace MessageFlags

def readOnly : Nat := 1
def alwaysInterleave : Nat := 2
def localOnly : Nat := 4
def suppressKeepAlive : Nat := 8

def empty : MessageFlags := ⟨0⟩

/-- The known bits of a word; the others are dropped. -/
def ofBits (n : Nat) : MessageFlags := ⟨n % 16⟩

/-- True when the flag bit `f` is set. -/
def has (m : MessageFlags) (f : Nat) : Bool := m.bits / f % 2 == 1

def isEmpty (m : MessageFlags) : Bool := m.bits == 0

def names : List (Nat × String) :=
  [(readOnly, "READ_ONLY"), (alwaysInterleave, "ALWAYS_INTERLEAVE"),
   (localOnly, "IS_LOCAL_ONLY"), (suppressKeepAlive, "SUPPRESS_KEEP_ALIVE")]

/-- `MessageFlags(READ_ONLY | ALWAYS_INTERLEAVE)`, or `MessageFlags(0x0)` when empty. -/
def structural (m : MessageFlags) : String :=
  if m.isEmpty then "MessageFlags(0x0)"
  else
    let set := names.filter (fun (f, _) => m.has f) |>.map (·.2)
    "MessageFlags(" ++ " | ".intercalate set ++ ")"

end MessageFlags

end ActorSilo
