import ActorSilo.Lifecycle
import ActorSilo.Identity

/-! # Cluster membership

The status of every known silo, set explicitly. The local silo starts `Active`. A
status update that changes a silo's status is announced to every listener; one that
repeats the current status is not. Statuses are listed in silo order (address, port,
generation).
-/

namespace ActorSilo

/-- The known silos and their statuses. -/
structure Membership where
  localSilo : SiloAddress
  /-- Statuses in silo order, one per silo. -/
  statuses : List (SiloAddress × SiloStatus)
  deriving Inhabited

namespace Membership

def make (s : SiloAddress) : Membership := ⟨s, [(s, .active)]⟩

def status? (m : Membership) (s : SiloAddress) : Option SiloStatus :=
  (m.statuses.find? (·.1 == s)).map (·.2)

/-- The local silo's status; `created` if it has none. -/
def current (m : Membership) : SiloStatus := (m.status? m.localSilo).getD .created

/-- Sets the status of a silo; true when it changed, so that listeners hear of it. -/
def update (m : Membership) (s : SiloAddress) (st : SiloStatus) : Membership × Bool :=
  let changed := m.status? s != some st
  ({ m with statuses := insert m.statuses }, changed)
where
  insert : List (SiloAddress × SiloStatus) → List (SiloAddress × SiloStatus)
    | [] => [(s, st)]
    | (k, v) :: rest =>
      match s.cmp k with
      | .eq => (s, st) :: rest
      | .lt => (s, st) :: (k, v) :: rest
      | .gt => (k, v) :: insert rest

def active (m : Membership) : List SiloAddress :=
  (m.statuses.filter (·.2 == .active)).map (·.1)

/-- `StaticMembership { local: …, statuses: [(…, Active), …] }`. -/
def structural (m : Membership) : String :=
  "StaticMembership \x7b local: " ++ m.localSilo.structural ++ ", statuses: [" ++
    ", ".intercalate (m.statuses.map fun (s, st) => "(" ++ s.structural ++ ", " ++ st.name ++ ")") ++
    "] \x7d"

end Membership

end ActorSilo
