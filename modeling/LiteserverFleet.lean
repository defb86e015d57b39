import LiteserverFleet.Archival
import LiteserverFleet.Binary64.Basic
import LiteserverFleet.Binary64.Shortest
import LiteserverFleet.CommandLine.Commands
import LiteserverFleet.CommandLine.Grammar
import LiteserverFleet.CommandLine.Help
import LiteserverFleet.CommandLine.Program
import LiteserverFleet.Error
import LiteserverFleet.Files.Path
import LiteserverFleet.Files.Store
import LiteserverFleet.Files.Tree
import LiteserverFleet.Health
import LiteserverFleet.Json.Decoder
import LiteserverFleet.Json.Number
import LiteserverFleet.Json.Printer
import LiteserverFleet.Json.Reader
import LiteserverFleet.Json.SyntaxError
import LiteserverFleet.Json.Value
import LiteserverFleet.Main
import LiteserverFleet.Monitor
import LiteserverFleet.Network.Config
import LiteserverFleet.Network.Liteserver
import LiteserverFleet.Notice
import LiteserverFleet.Proofs.CommandLine.Listing
import LiteserverFleet.Proofs.CommandLine.Split
import LiteserverFleet.Proofs.CommandLine.SplitTree
import LiteserverFleet.Proofs.Files.Directories
import LiteserverFleet.Proofs.Files.Path
import LiteserverFleet.Proofs.Files.Tree
import LiteserverFleet.Proofs.Health
import LiteserverFleet.Proofs.Json.Decoding
import LiteserverFleet.Proofs.Json.Members
import LiteserverFleet.Proofs.Json.RoundTrip
import LiteserverFleet.Proofs.Json.Shape
import LiteserverFleet.Proofs.Json.Tokens
import LiteserverFleet.Proofs.Monitor.ArchivalPass
import LiteserverFleet.Proofs.Monitor.Backoff
import LiteserverFleet.Proofs.Monitor.DueTime
import LiteserverFleet.Proofs.Monitor.Exclusion
import LiteserverFleet.Proofs.Monitor.History
import LiteserverFleet.Proofs.Monitor.InFlight
import LiteserverFleet.Proofs.Monitor.Independence
import LiteserverFleet.Proofs.Monitor.OneWorker
import LiteserverFleet.Proofs.Monitor.Record
import LiteserverFleet.Proofs.Monitor.Recovery
import LiteserverFleet.Proofs.Monitor.Spacing
import LiteserverFleet.Proofs.Monitor.Watch
import LiteserverFleet.Proofs.Network.Endpoints
import LiteserverFleet.Proofs.Network.Indices
import LiteserverFleet.Proofs.Network.Liteservers
import LiteserverFleet.Proofs.Network.Partition
import LiteserverFleet.Proofs.Passes
import LiteserverFleet.Proofs.Random.Draws
import LiteserverFleet.Proofs.Random.Orders
import LiteserverFleet.Proofs.Random.Uniform
import LiteserverFleet.Proofs.Request.RoundTrip
import LiteserverFleet.Proofs.Request.Validation
import LiteserverFleet.Proofs.Routing
import LiteserverFleet.Proofs.Routing.Fairness
import LiteserverFleet.Proofs.Routing.Requests
import LiteserverFleet.Proofs.Settings
import LiteserverFleet.Proofs.Simulation.Dispatch
import LiteserverFleet.Proofs.Simulation.FailingWorker
import LiteserverFleet.Proofs.Simulation.Sessions
import LiteserverFleet.Proofs.Simulation.Share
import LiteserverFleet.Proofs.Simulation.Timeline
import LiteserverFleet.Proofs.Simulation.Timeout
import LiteserverFleet.Proofs.Startup
import LiteserverFleet.Proofs.Startup.Stages
import LiteserverFleet.Proofs.Text.Separators
import LiteserverFleet.Random.Keystream
import LiteserverFleet.Random.Source
import LiteserverFleet.Request.Parameters
import LiteserverFleet.Request.Selection
import LiteserverFleet.Routing
import LiteserverFleet.Schedule
import LiteserverFleet.Settings
import LiteserverFleet.Simulation.Clock
import LiteserverFleet.Simulation.Connection
import LiteserverFleet.Simulation.Session
import LiteserverFleet.Startup
import LiteserverFleet.Text.Hidden
import LiteserverFleet.Text.Quoted
import LiteserverFleet.Text.Utf8
import LiteserverFleet.Worker
import LiteserverFleet.Proofs.Files.Removal
import LiteserverFleet.Proofs.Startup.KeyStore
