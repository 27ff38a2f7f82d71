import ActorSilo.Text.Decimal
import ActorSilo.Text.Ranges
import ActorSilo.Text.NonPrinting
import ActorSilo.Text.Extending
import ActorSilo.Text.Quoted
import ActorSilo.Text.Hex
import ActorSilo.Text.Utf8
import ActorSilo.Json.Value
import ActorSilo.Json.Syntax
import ActorSilo.Json.Write
import ActorSilo.Json.Decode
import ActorSilo.Endpoint
import ActorSilo.Identity
import ActorSilo.Lifecycle
import ActorSilo.Duration
import ActorSilo.Json.Duration
import ActorSilo.Config.Basic
import ActorSilo.Config.Codec
import ActorSilo.Placement.Strategy
import ActorSilo.Message.Flags
import ActorSilo.Message.Basic
import ActorSilo.Message.Codec
import ActorSilo.Error
import ActorSilo.Grain.Type
import ActorSilo.Activation.Record
import ActorSilo.Activation.Collector
import ActorSilo.Scenario.Input
import ActorSilo.Scenario.Basics
import ActorSilo.Scenario.Config
import ActorSilo.Scenario.Failure
import ActorSilo.Scenario.Output
import ActorSilo.Scenario.Message
import ActorSilo.Scenario.Record
import ActorSilo.Scenario.Collector
import ActorSilo.Directory
import ActorSilo.Storage
import ActorSilo.Membership
import ActorSilo.Scenario.Directory
import ActorSilo.Scenario.Storage
import ActorSilo.Scenario.Membership
import ActorSilo.Placement.Director
import ActorSilo.Activation.Registry
import ActorSilo.Grain.Methods
import ActorSilo.Scenario.Placement
import ActorSilo.Scenario.Registry
import ActorSilo.Scenario.Grain
import ActorSilo.Executor.Program
import ActorSilo.Executor.Drive
import ActorSilo.Random.ChaCha
import ActorSilo.Request.Callback
import ActorSilo.Scenario.Callback
import ActorSilo.Scenario.Answer
import ActorSilo.Silo.World
import ActorSilo.Silo.Send
import ActorSilo.Silo.Client
import ActorSilo.Silo.Catalog
import ActorSilo.Silo.Dispatch
import ActorSilo.Silo.Lifecycle
import ActorSilo.Silo.Host
import ActorSilo.Scenario.Bench
import ActorSilo.Scenario.Silo
import ActorSilo.Proofs.Settle
import ActorSilo.Proofs.Turns
import ActorSilo.Proofs.SiloSteps
import ActorSilo.Proofs.Happenings
import ActorSilo.Proofs.DispatchRuns
import ActorSilo.Proofs.CollectionWheel
import ActorSilo.Proofs.Guarantee
import ActorSilo.Proofs.Triple
import ActorSilo.Proofs.CodeLogic
import ActorSilo.Proofs.Changes
import ActorSilo.Proofs.CalmChanges
import ActorSilo.Proofs.CalmMessaging
import ActorSilo.Proofs.SoundLifecycle
import ActorSilo.Proofs.RecordInvariant
import ActorSilo.Proofs.DeadlockDetection
import ActorSilo.Proofs.Evacuation
import ActorSilo.Proofs.WheelTickets
import ActorSilo.Proofs.WheelRecords
import ActorSilo.Proofs.WheelScans
import ActorSilo.Proofs.StaleScan
import ActorSilo.Proofs.CallbackFiring
import ActorSilo.Proofs.CollectionTiming
import ActorSilo.Proofs.LocalPlacement
import ActorSilo.Proofs.RerouteBudgets
import ActorSilo.Proofs.WheelConsistency
import ActorSilo.Proofs.WheelExits
import ActorSilo.Proofs.WheelTiming
import ActorSilo.Proofs.ForcedScan
import ActorSilo.Proofs.CatalogLookup
import ActorSilo.Proofs.TimeoutSchedule
import ActorSilo.Proofs.OverloadLimit
import ActorSilo.Proofs.KeyedLists
import ActorSilo.Proofs.DirectoryEntries
import ActorSilo.Proofs.RegistryIndexes
import ActorSilo.Proofs.IdleMarks
import ActorSilo.Proofs.DueBuckets
import ActorSilo.Proofs.OptimisticConcurrency
import ActorSilo.Proofs.TurnBookkeeping
import ActorSilo.Proofs.ReaderSteps
import ActorSilo.Proofs.StringReads
import ActorSilo.Proofs.DigitText
import ActorSilo.Proofs.NumberReads
import ActorSilo.Proofs.TypedReads
import ActorSilo.Proofs.TypedYields
import ActorSilo.Proofs.EndpointText
import ActorSilo.Proofs.WireReads
import ActorSilo.Proofs.WireRoundTrip
