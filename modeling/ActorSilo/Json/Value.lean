/-! # JSON values

A JSON document as the silo's configuration and message formats read it. Numbers keep
the kind they were written as: an integer that fits in an unsigned 64-bit word, a
negative integer that fits in a signed one, or anything else as a binary64 float.
Objects hold their members in key order with one member per key (a later duplicate
replaces the earlier), which is also the order in which they are written back.
-/

namespace ActorSilo

inductive Json where
  | null
  | bool (b : Bool)
  /-- An integer in `[0, 2^64)`. -/
  | nat (n : Nat)
  /-- A negative integer in `[-2^63, 0)`. -/
  | neg (i : Int)
  | float (x : Float)
  | str (s : String)
  | arr (items : List Json)
  | obj (fields : List (String × Json))
  deriving Inhabited

namespace Json

/-- Inserts a member into a key-ordered member list, replacing one of the same key. -/
def insertField (k : String) (v : Json) : List (String × Json) → List (String × Json)
  | [] => [(k, v)]
  | (k', v') :: rest =>
    if k = k' then (k, v) :: rest
    else if k < k' then (k, v) :: (k', v') :: rest
    else (k', v') :: insertField k v rest

/-- Builds an object from members in any order: keys sorted, the last of equal keys kept. -/
def ofFields (fs : List (String × Json)) : Json :=
  .obj (fs.foldl (fun acc (k, v) => insertField k v acc) [])

/-- The member `k` of an object. -/
def get? (j : Json) (k : String) : Option Json :=
  match j with
  | .obj fs => (fs.find? (·.1 == k)).map (·.2)
  | _ => none

def ofInt (i : Int) : Json := if i < 0 then .neg i else .nat i.toNat

/-- The integer a value holds, if it is one. -/
def int? : Json → Option Int
  | .nat n => some n
  | .neg i => some i
  | _ => none

/-- The text a value holds, if it is one. -/
def str? : Json → Option String
  | .str s => some s
  | _ => none

def arr? : Json → Option (List Json)
  | .arr xs => some xs
  | _ => none

/-- The truth value a value holds, if it is one. -/
def bool? : Json → Option Bool
  | .bool b => some b
  | _ => none

def isNull : Json → Bool
  | .null => true
  | _ => false

/-- An optional value, with `null` for none. -/
def opt {α : Type} (f : α → Json) : Option α → Json
  | some a => f a
  | none => .null

end Json

end ActorSilo
