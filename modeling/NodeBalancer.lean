import NodeBalancer.Address
import NodeBalancer.Address.Parser
import NodeBalancer.Address.Printer
import NodeBalancer.Cluster
import NodeBalancer.Config
import NodeBalancer.Config.Environment
import NodeBalancer.ConnectionPool
import NodeBalancer.Discovery.Client
import NodeBalancer.Discovery.Locator
import NodeBalancer.Discovery.Locator.Parser
import NodeBalancer.Discovery.NodeList
import NodeBalancer.Discovery.Redirect
import NodeBalancer.Endpoint
import NodeBalancer.Error
import NodeBalancer.Files
import NodeBalancer.Filter
import NodeBalancer.Http.Raw
import NodeBalancer.Http.Response
import NodeBalancer.Http.Server
import NodeBalancer.Identity.Base64
import NodeBalancer.Identity.Bytes
import NodeBalancer.Identity.Certificate
import NodeBalancer.Identity.Curve
import NodeBalancer.Identity.Edwards
import NodeBalancer.Identity.KeyPair
import NodeBalancer.Identity.Pem
import NodeBalancer.Identity.PrivateKey
import NodeBalancer.Identity.Repeated
import NodeBalancer.Identity.RsaKey
import NodeBalancer.Identity.Sha512
import NodeBalancer.Identity.Tagged
import NodeBalancer.Json
import NodeBalancer.Json.Parser
import NodeBalancer.Proofs.Journal
import NodeBalancer.Proofs.Run
import NodeBalancer.Proofs.WorkerPool.Tasks
import NodeBalancer.Refresh
import NodeBalancer.Registry
import NodeBalancer.Registry.Script
import NodeBalancer.Session
import NodeBalancer.Session.Script
import NodeBalancer.Session.Trial
import NodeBalancer.System
import NodeBalancer.System.Progress
import NodeBalancer.Text.Blank
import NodeBalancer.Text.FormEncoding
import NodeBalancer.Text.GraphemeExtend
import NodeBalancer.Text.Numeral
import NodeBalancer.Text.Quoted
import NodeBalancer.Text.Record
import NodeBalancer.Text.Unprintable
import NodeBalancer.Time
import NodeBalancer.WorkerPool
import NodeBalancer.WorkerPool.Script
import NodeBalancer.Proofs.Agent.Lane
import NodeBalancer.Proofs.System.Frame
import NodeBalancer.Proofs.System.Projection
import NodeBalancer.Proofs.Agent.Life
import NodeBalancer.Proofs.SingleFlight
import NodeBalancer.Proofs.System.Effects
import NodeBalancer.Proofs.PickSequence
import NodeBalancer.Proofs.Provenance
import NodeBalancer.Proofs.RoundRobin
import NodeBalancer.Proofs.Session.Runs
import NodeBalancer.Proofs.WorkerPool.History
import NodeBalancer.Proofs.WorkerPool.Order
import NodeBalancer.Proofs.WorkerPool.Overlap
import NodeBalancer.Proofs.Sequential.Reference
import NodeBalancer.Proofs.Session.Settling
import NodeBalancer.Proofs.Sequential.Mirror
import NodeBalancer.Proofs.Sequential.Calls
import NodeBalancer.Proofs.Sequential.Refinement
import NodeBalancer.Proofs.Returns
import NodeBalancer.Proofs.System.Sources
import NodeBalancer.Proofs.Schedule
import NodeBalancer.Proofs.References
import NodeBalancer.Proofs.Stopped
import NodeBalancer.Proofs.Independence
import NodeBalancer.Proofs.Text.Numeral
import NodeBalancer.Proofs.Address.RoundTrip
import NodeBalancer.Proofs.Text.Joined
import NodeBalancer.Proofs.Text.FormDecoding
import NodeBalancer.Proofs.Discovery.Locator
import NodeBalancer.Proofs.ConnectionPools
import NodeBalancer.Proofs.Agent.Answers
import NodeBalancer.Proofs.System.Answers
import NodeBalancer.Proofs.Topology
import NodeBalancer.Proofs.Registry.PreCheck
import NodeBalancer.Proofs.Text.Digits
import NodeBalancer.Proofs.Address.Grammar
import NodeBalancer.Proofs.Endpoint.Hosts
import NodeBalancer.Proofs.Endpoint.Text
import NodeBalancer.Proofs.Json.Grammar
import NodeBalancer.Proofs.Json.Strings
import NodeBalancer.Proofs.Json.Numbers
import NodeBalancer.Proofs.Json.Values
import NodeBalancer.Proofs.Discovery.NodeList
import NodeBalancer.Proofs.Probe.Verdict
import NodeBalancer.Proofs.Probe.Validation
import NodeBalancer.Proofs.Failover
import NodeBalancer.Proofs.Probe.Outages
import NodeBalancer.Proofs.Registry.Evenness
import NodeBalancer.Proofs.Text.Blank
import NodeBalancer.Proofs.Config.Variables
import NodeBalancer.Proofs.Config.Environment
import NodeBalancer.Proofs.Config.Seeds
import NodeBalancer.Proofs.Untouched
import NodeBalancer.Proofs.Config.Port
import NodeBalancer.Proofs.Construction
