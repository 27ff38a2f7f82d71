import ActorSilo.Json.Syntax
import ActorSilo.Json.Write
import ActorSilo.Scenario.Basics
import ActorSilo.Scenario.Config
import ActorSilo.Scenario.Failure
import ActorSilo.Scenario.Message
import ActorSilo.Scenario.Record
import ActorSilo.Scenario.Collector
import ActorSilo.Scenario.Directory
import ActorSilo.Scenario.Storage
import ActorSilo.Scenario.Membership
import ActorSilo.Scenario.Placement
import ActorSilo.Scenario.Registry
import ActorSilo.Scenario.Grain
import ActorSilo.Scenario.Callback
import ActorSilo.Scenario.Silo

/-! # Answering scenarios

A scenario names its operation in the member `op`. `answer` runs it and gives its
answer as JSON; a script that cannot be read is answered with a `BadInput` error that
says why. `answerLine` does the same for one line of JSON text.
-/

namespace ActorSilo.Scenario

/-- The answer to a script that cannot be read. -/
def badInput (why : String) : Json := failureJson "BadInput" why

def run (j : Json) : Build Json := do
  match opt j "op" with
  | some (.str "types") => parsed (identities j)
  | some (.str "state") => parsed (lifecycle j)
  | some (.str "config") => parsed (configuration j)
  | some (.str "error") => parsed (failure j)
  | some (.str "message") => messageScenario j
  | some (.str "record") => recordScenario j
  | some (.str "collector") => collectorScenario j
  | some (.str "directory") => parsed (directoryScenario j)
  | some (.str "storage") => parsed (storageScenario j)
  | some (.str "membership") => parsed (membershipScenario j)
  | some (.str "placement") => parsed (placementScenario j)
  | some (.str "registry") => parsed (registryScenario j)
  | some (.str "grain") => parsed (grainScenario j)
  | some (.str "callback") => parsed (callbackScenario j)
  | some (.str "silo") => siloScenario j
  | some (.str other) => throw (.badInput s!"unknown op {other}")
  | _ => throw (.badInput "missing op")

def answer (j : Json) : Json :=
  match run j with
  | .ok v => v
  | .error (.badInput why) => badInput why
  | .error (.halted why) => failureJson "panic" why

/-- The answer to one line of JSON text, as compact JSON text. -/
def answerLine (line : String) : String :=
  match Json.parse line with
  | .ok j => Json.compact (answer j)
  | .error e => Json.compact (badInput e.render)

end ActorSilo.Scenario
