import EngineSync.Activation
import EngineSync.Bootstrap
import EngineSync.Configuration
import EngineSync.Decimal.Integer
import EngineSync.Decimal.Shortest
import EngineSync.Diagnostics
import EngineSync.DirEntry
import EngineSync.Disposal
import EngineSync.Document
import EngineSync.Engine
import EngineSync.Environment
import EngineSync.Event
import EngineSync.EventBus
import EngineSync.EventBus.Hub
import EngineSync.Failure
import EngineSync.FeatureGate
import EngineSync.FeatureGate.Requests
import EngineSync.FeatureGate.Switchboard
import EngineSync.FileTree
import EngineSync.FileTree.Change
import EngineSync.FileTree.Route
import EngineSync.FileTree.Walk
import EngineSync.Handle
import EngineSync.Journal
import EngineSync.Json.Fields
import EngineSync.Json.Number
import EngineSync.Json.Numeral
import EngineSync.Json.Token
import EngineSync.Json.Tree
import EngineSync.Json.Value
import EngineSync.Lanes
import EngineSync.Manifest
import EngineSync.Pending
import EngineSync.Profile
import EngineSync.Project
import EngineSync.Provider
import EngineSync.Router
import EngineSync.Scenario.Activation
import EngineSync.Scenario.Bootstrap
import EngineSync.Scenario.Bus
import EngineSync.Scenario.Diagnostics
import EngineSync.Scenario.Disposal
import EngineSync.Scenario.EngineView
import EngineSync.Scenario.Files
import EngineSync.Scenario.Gate
import EngineSync.Scenario.ProjectReading
import EngineSync.Scenario.Providers
import EngineSync.Scenario.Refusal
import EngineSync.Scenario.Router
import EngineSync.Scenario.Session
import EngineSync.Scenario.Settings
import EngineSync.Scenario.Sync
import EngineSync.Session
import EngineSync.Settings
import EngineSync.Settings.Change
import EngineSync.Settings.File
import EngineSync.Settings.Source
import EngineSync.Sync
import EngineSync.Text.Order
import EngineSync.Text.Outline
import EngineSync.Text.Quoted
import EngineSync.Text.Split
import EngineSync.Text.Symbols
import EngineSync.Text.Unprintable
import EngineSync.Toml.Document
import EngineSync.Toml.Quote
import EngineSync.Toml.Scalar
import EngineSync.Toml.Value
import EngineSync.Uri
import EngineSync.World
import EngineSync.Proofs.LaneOrder
import EngineSync.Proofs.Run
import EngineSync.Proofs.Forwarding
import EngineSync.Proofs.LaneSafety
import EngineSync.Proofs.Edits
import EngineSync.Proofs.Operations
import EngineSync.Proofs.WorldSteps
import EngineSync.Proofs.Work
import EngineSync.Proofs.WorldRun
import EngineSync.Proofs.Ownership
import EngineSync.Proofs.Roster
import EngineSync.Proofs.Sound
import EngineSync.Proofs.Bystanders
import EngineSync.Proofs.Replays
import EngineSync.Proofs.Barriers
import EngineSync.Proofs.Endings
import EngineSync.Proofs.Records
import EngineSync.Proofs.Waiting
import EngineSync.Proofs.Fences
import EngineSync.Proofs.Handling
import EngineSync.Proofs.ReplayBarrier
import EngineSync.Proofs.Teardown
import EngineSync.Proofs.Failures
import EngineSync.Proofs.Cancellations
import EngineSync.Proofs.Toggles
import EngineSync.Proofs.Backlog
import EngineSync.Proofs.Mirroring
import EngineSync.Proofs.Copies
import EngineSync.Proofs.Unmoved
import EngineSync.Proofs.Forefront
import EngineSync.Proofs.Queues
import EngineSync.Proofs.Tracking
import EngineSync.Proofs.Requests
import EngineSync.Proofs.Claims
import EngineSync.Proofs.LatestProfile
import EngineSync.Proofs.Effort
import EngineSync.Proofs.Links
import EngineSync.Proofs.Deadlock
import EngineSync.Proofs.Asking
import EngineSync.Proofs.Holders
import EngineSync.Proofs.AfterDisposal
import EngineSync.Proofs.Apart
import EngineSync.Proofs.Reports
import EngineSync.Proofs.Summaries
import EngineSync.Proofs.Callers
import EngineSync.Proofs.Conservation
import EngineSync.Proofs.InHand
import EngineSync.Proofs.Takings
import EngineSync.Proofs.LateEvents
import EngineSync.Proofs.Collections
import EngineSync.Proofs.Versions
import EngineSync.Proofs.Settling
import EngineSync.Proofs.Clearing
import EngineSync.Proofs.Disposing
import EngineSync.Proofs.Past
import EngineSync.Proofs.PastEnvironment
import EngineSync.Proofs.PastCalls
import EngineSync.Proofs.PastWorld
import EngineSync.Proofs.Silence
import EngineSync.Proofs.Leftovers
import EngineSync.Proofs.CleanStart
import EngineSync.Proofs.Sifting
import EngineSync.Proofs.Untracked
import EngineSync.Proofs.KeyPaths
import EngineSync.Proofs.LaneTable
import EngineSync.Proofs.Reactions
import EngineSync.Proofs.JsonGrammar
import EngineSync.Proofs.JsonReading
import EngineSync.Proofs.TextBytes
import EngineSync.Proofs.JsonValues
import EngineSync.Proofs.WireCodecs
import EngineSync.Proofs.ManifestMembers
import EngineSync.Proofs.TomlKeys
import EngineSync.Proofs.SettingsFiles
import EngineSync.Proofs.Deliveries
import EngineSync.Proofs.Registrations
import EngineSync.Proofs.Listings
import EngineSync.Proofs.GateRequests
