import ShadowTraffic.Main
import ShadowTraffic.Scenario.Logging
import ShadowTraffic.Scenario.Machine
import ShadowTraffic.Proofs.Registry.Shared
import ShadowTraffic.Proofs.Registry.Soundness
import ShadowTraffic.Proofs.Registry.Preservation
import ShadowTraffic.Proofs.Registry.Later
import ShadowTraffic.Proofs.Registry.Answers
import ShadowTraffic.Proofs.Registry.Reachability
import ShadowTraffic.Proofs.Registry.Fillings
import ShadowTraffic.Proofs.Registry.Entries
import ShadowTraffic.Proofs.Registry.Gathering
import ShadowTraffic.Proofs.Registry.SingleFlight
import ShadowTraffic.Proofs.Routing.Service
import ShadowTraffic.Proofs.Routing.Steps
import ShadowTraffic.Proofs.Routing.Targets
import ShadowTraffic.Proofs.Routing.Switch
import ShadowTraffic.Proofs.Routing.Table
import ShadowTraffic.Proofs.Routing.Ordinary
import ShadowTraffic.Proofs.Scope.Frames
import ShadowTraffic.Proofs.Scope.Tickets
import ShadowTraffic.Proofs.Scenario.Guard
import ShadowTraffic.Proofs.Scope.Counts
import ShadowTraffic.Proofs.Scenario.Going
import ShadowTraffic.Proofs.Scenario.Leaving
import ShadowTraffic.Proofs.Scenario.Opening
import ShadowTraffic.Proofs.Scenario.Mediation
import ShadowTraffic.Proofs.Identity.Key
import ShadowTraffic.Proofs.Traffic.Marking
import ShadowTraffic.Proofs.Traffic.Chains
import ShadowTraffic.Proofs.Traffic.Precedence
import ShadowTraffic.Proofs.Scope.Exits
import ShadowTraffic.Proofs.Scope.ByHand
import ShadowTraffic.Proofs.Registry.Closings
import ShadowTraffic.Proofs.Registry.Conservation
import ShadowTraffic.Proofs.Scenario.Bodies
import ShadowTraffic.Proofs.Scenario.Gating
import ShadowTraffic.Proofs.Registry.Cancellation
import ShadowTraffic.Proofs.Routing.Spans
import ShadowTraffic.Proofs.Scenario.Isolation
import ShadowTraffic.Proofs.Scenario.Tokens
import ShadowTraffic.Proofs.Registry.Gauge
import ShadowTraffic.Proofs.Routing.Counting
import ShadowTraffic.Proofs.Traffic.Maps
import ShadowTraffic.Proofs.Traffic.Fields
import ShadowTraffic.Proofs.Registry.Opened
import ShadowTraffic.Proofs.Registry.Rounds
import ShadowTraffic.Proofs.Registry.Interleaved
import ShadowTraffic.Proofs.Registry.Mirroring
import ShadowTraffic.Proofs.Registry.Independence
import ShadowTraffic.Proofs.Config.Report
import ShadowTraffic.Proofs.Traffic.Truthy
import ShadowTraffic.Proofs.Identity.Redaction
import ShadowTraffic.Proofs.Cli.Inspection
import ShadowTraffic.Proofs.Scope.Names
import ShadowTraffic.Proofs.Registry.Statistics
import ShadowTraffic.Proofs.Config.TextOverrides
import ShadowTraffic.Proofs.Cli.Creation
import ShadowTraffic.Proofs.Scope.Uses
