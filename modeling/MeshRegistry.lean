import MeshRegistry.SortedMap
import MeshRegistry.Text.Ranges
import MeshRegistry.Text.Casing
import MeshRegistry.Text.Shown
import MeshRegistry.Text.Octets
import MeshRegistry.HostName
import MeshRegistry.Address
import MeshRegistry.Json.Parser
import MeshRegistry.Json.Printer
import MeshRegistry.Json.Encoding
import MeshRegistry.Entry.Basic
import MeshRegistry.Entry.Json
import MeshRegistry.Entry.Build
import MeshRegistry.Config.Registry
import MeshRegistry.Config.Owner
import MeshRegistry.Config.Controller
import MeshRegistry.Mesh.Ownership
import MeshRegistry.Mesh.Informer
import MeshRegistry.Mesh.Store
import MeshRegistry.Mesh.Apply
import MeshRegistry.Mesh.Reconcile
import MeshRegistry.Mesh.Faults
import MeshRegistry.Wire.Value
import MeshRegistry.Wire.Resource
import MeshRegistry.Wire.MeshConfig
import MeshRegistry.Discovery.Names
import MeshRegistry.Discovery.NodeIdentity
import MeshRegistry.Discovery.Received
import MeshRegistry.Discovery.Backoff
import MeshRegistry.Net.Uri
import MeshRegistry.Queue
import MeshRegistry.Files
import MeshRegistry.Discovery.Stream
import MeshRegistry.Net.Url
import MeshRegistry.Catalog.Watcher
import MeshRegistry.Wire.Json
import MeshRegistry.Mesh.Json
import MeshRegistry.Cluster.Client
import MeshRegistry.Cluster.Watch
import MeshRegistry.Yaml.Value
import MeshRegistry.Config.Datum
import MeshRegistry.Config.Load
import MeshRegistry.Cluster.Description
import MeshRegistry.Controller.Assembly
import MeshRegistry.Controller.Shutdown
import MeshRegistry.Main
import MeshRegistry.Proofs.Catalog.Recovery
import MeshRegistry.Proofs.Mesh.Foreign
import MeshRegistry.Proofs.Mesh.SingleWriter
import MeshRegistry.Proofs.Controller.Convergence
import MeshRegistry.Proofs.Mesh.Orphans
import MeshRegistry.Proofs.Mesh.Rules
import MeshRegistry.Proofs.Mesh.Contention
import MeshRegistry.Proofs.Mesh.Refusals
import MeshRegistry.Proofs.Mesh.Relist
import MeshRegistry.Proofs.Mesh.Applying
import MeshRegistry.Proofs.Discovery.Pipeline
import MeshRegistry.Proofs.Discovery.Translation
import MeshRegistry.Proofs.Discovery.Resend
import MeshRegistry.Proofs.Mesh.Removals
import MeshRegistry.Proofs.Discovery.Offers
import MeshRegistry.Proofs.Discovery.Handover
import MeshRegistry.Proofs.Discovery.Accounting
import MeshRegistry.Proofs.Discovery.Delivery
import MeshRegistry.Proofs.Catalog.Upkeep
import MeshRegistry.Proofs.Mesh.Reflection
import MeshRegistry.Proofs.Mesh.Announcements
import MeshRegistry.Proofs.Mesh.Footprint
import MeshRegistry.Proofs.Mesh.Isolation
import MeshRegistry.Proofs.Mesh.Merging
import MeshRegistry.Proofs.Mesh.LastWriter
import MeshRegistry.Proofs.Catalog.Polls
import MeshRegistry.Proofs.Catalog.Visits
import MeshRegistry.Proofs.Discovery.Namesakes
import MeshRegistry.Proofs.Mesh.Overlaps
import MeshRegistry.Proofs.Discovery.KeptConfig
import MeshRegistry.Proofs.Discovery.Dialogue
import MeshRegistry.Proofs.Discovery.Acknowledgments
import MeshRegistry.Proofs.Discovery.TypeAnnouncements
import MeshRegistry.Proofs.Discovery.Closing
import MeshRegistry.Proofs.Wire.Fields
import MeshRegistry.Proofs.Wire.Segments
import MeshRegistry.Proofs.Wire.RoundTrip
import MeshRegistry.Proofs.Wire.Supersets
import MeshRegistry.Proofs.Json.Spelling
import MeshRegistry.Proofs.Json.Compact
import MeshRegistry.Proofs.Json.Rewriting
import MeshRegistry.Proofs.Entry.RoundTrip
import MeshRegistry.Proofs.Config.Registries
import MeshRegistry.Proofs.Config.GuessedTexts
import MeshRegistry.Proofs.Config.Layers
import MeshRegistry.Proofs.Config.Environment
import MeshRegistry.Proofs.Controller.Acceptance
import MeshRegistry.Proofs.Controller.Startup
import MeshRegistry.Proofs.Entry.Ports
import MeshRegistry.Proofs.Discovery.Delays
