import HostMeter.Agent
import HostMeter.AgentBuilder
import HostMeter.Api
import HostMeter.Backend
import HostMeter.Cgroup.Files
import HostMeter.Cgroup.Hierarchy
import HostMeter.Cgroup.Host
import HostMeter.Cgroup.Scan
import HostMeter.Cgroup.Scope
import HostMeter.Cgroup.Snapshot
import HostMeter.Cgroup.Watch
import HostMeter.Chain
import HostMeter.Channel
import HostMeter.Clock
import HostMeter.Collector
import HostMeter.CommandLine
import HostMeter.Configuration
import HostMeter.Configuration.Listing
import HostMeter.Container
import HostMeter.ContainerRuntime
import HostMeter.Dispatcher
import HostMeter.Factories
import HostMeter.Failing
import HostMeter.FileTree
import HostMeter.Fleet
import HostMeter.Health
import HostMeter.HttpBackend
import HostMeter.Inbox
import HostMeter.Json.Access
import HostMeter.Json.Codec
import HostMeter.Json.Document
import HostMeter.Json.Value
import HostMeter.Lifecycle
import HostMeter.LogFilter
import HostMeter.Main
import HostMeter.Message
import HostMeter.Meter
import HostMeter.Metrics
import HostMeter.Notice
import HostMeter.Number.Binary64
import HostMeter.Number.Limits
import HostMeter.Number.Literal
import HostMeter.Number.Shortest
import HostMeter.Pipeline
import HostMeter.Probe
import HostMeter.Program
import HostMeter.Proofs.Agent.Admission
import HostMeter.Proofs.Agent.Gauges
import HostMeter.Proofs.Agent.Lifecycle
import HostMeter.Proofs.Agent.Occurrences
import HostMeter.Proofs.Agent.Queue
import HostMeter.Proofs.Agent.Relay
import HostMeter.Proofs.Agent.Shutdown
import HostMeter.Proofs.Agent.Unreachable
import HostMeter.Proofs.Cgroup.Announcement
import HostMeter.Proofs.Cgroup.Figures
import HostMeter.Proofs.Cgroup.FlatKeyed
import HostMeter.Proofs.Cgroup.Lookup
import HostMeter.Proofs.Cgroup.Network
import HostMeter.Proofs.Cgroup.Projection
import HostMeter.Proofs.Cgroup.Scan
import HostMeter.Proofs.Cgroup.Scope
import HostMeter.Proofs.Cgroup.Traffic
import HostMeter.Proofs.Chain.Conservation
import HostMeter.Proofs.Chain.Counters
import HostMeter.Proofs.Chain.Course
import HostMeter.Proofs.Chain.Deliveries
import HostMeter.Proofs.Chain.Disposition
import HostMeter.Proofs.Chain.Effects
import HostMeter.Proofs.Chain.Filters
import HostMeter.Proofs.Chain.Gauges
import HostMeter.Proofs.Chain.Handed
import HostMeter.Proofs.Chain.Reports
import HostMeter.Proofs.Chain.Run
import HostMeter.Proofs.Chain.Send
import HostMeter.Proofs.Chain.Stirs
import HostMeter.Proofs.Chain.Tracked
import HostMeter.Proofs.Collector.Backlog
import HostMeter.Proofs.Collector.Changes
import HostMeter.Proofs.Collector.Fed
import HostMeter.Proofs.Collector.Final
import HostMeter.Proofs.Collector.Gauge
import HostMeter.Proofs.Collector.Generations
import HostMeter.Proofs.Collector.Labels
import HostMeter.Proofs.Collector.Landmarks
import HostMeter.Proofs.Collector.Metering
import HostMeter.Proofs.Collector.Poll
import HostMeter.Proofs.Collector.Provenance
import HostMeter.Proofs.Collector.Quit
import HostMeter.Proofs.Collector.Sound
import HostMeter.Proofs.Collector.Stop
import HostMeter.Proofs.Collector.Usage
import HostMeter.Proofs.Core
import HostMeter.Proofs.Documents.Finite
import HostMeter.Proofs.Documents.Lawful
import HostMeter.Proofs.Documents.Normal
import HostMeter.Proofs.Documents.Numbers
import HostMeter.Proofs.Documents.Records
import HostMeter.Proofs.Documents.RoundTrip
import HostMeter.Proofs.Documents.Text
import HostMeter.Proofs.FileTree
import HostMeter.Proofs.Health
import HostMeter.Proofs.Pipeline
import HostMeter.Proofs.Pipeline.Composition
import HostMeter.Proofs.Rehearsal.Coherent
import HostMeter.Proofs.Rehearsal.Commutation
import HostMeter.Proofs.Rehearsal.Locality
import HostMeter.Proofs.Rehearsal.Moves
import HostMeter.Proofs.Runtime.Faithful
import HostMeter.Proofs.Table
import HostMeter.Proofs.Text.Lines
import HostMeter.Proofs.Tracking.Environment
import HostMeter.Proofs.Tracking.FirstWriter
import HostMeter.Proofs.Tracking.Reachable
import HostMeter.Proofs.Tracking.Registry
import HostMeter.Proofs.Watched
import HostMeter.Proofs.Workers.Accounting
import HostMeter.Proofs.Workers.Clerks
import HostMeter.Proofs.Workers.Deliveries
import HostMeter.Proofs.Workers.Discovery
import HostMeter.Proofs.Workers.Drain
import HostMeter.Proofs.Workers.Flight
import HostMeter.Proofs.Workers.Hall
import HostMeter.Proofs.Workers.Landings
import HostMeter.Proofs.Workers.Openings
import HostMeter.Proofs.Workers.Overtaking
import HostMeter.Proofs.Workers.Stages
import HostMeter.Proofs.Workers.Stops
import HostMeter.Proofs.Workers.Team
import HostMeter.Rehearsal
import HostMeter.Report
import HostMeter.Schema
import HostMeter.Settings.Reading
import HostMeter.Settings.Source
import HostMeter.Settings.Toml
import HostMeter.Settings.Tree
import HostMeter.Settings.Yaml
import HostMeter.Table
import HostMeter.Text.Blank
import HostMeter.Text.Hidden
import HostMeter.Text.Lower
import HostMeter.Text.Quoted
import HostMeter.Text.Utf8
import HostMeter.Tracking
import HostMeter.Usage
import HostMeter.UsageChannel
import HostMeter.Web.Domain
import HostMeter.Web.Endpoint
import HostMeter.Web.Host
import HostMeter.Web.Percent
import HostMeter.Web.Punycode
import HostMeter.Web.Token
