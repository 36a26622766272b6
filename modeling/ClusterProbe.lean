import ClusterProbe.Main
import ClusterProbe.Rehearsal
import ClusterProbe.Proofs.Run.Stage
import ClusterProbe.Proofs.Run.Rendering
import ClusterProbe.Proofs.Run.Partners
import ClusterProbe.Proofs.Run.Setup
import ClusterProbe.Proofs.Run.Calls
import ClusterProbe.Proofs.Run.Composition
import ClusterProbe.Proofs.Run.Verification
import ClusterProbe.Proofs.Run.Teardown
import ClusterProbe.Proofs.Run.Readiness
import ClusterProbe.Proofs.Yaml.Effort
import ClusterProbe.Proofs.Yaml.Order
import ClusterProbe.Proofs.Template.Delimiters
import ClusterProbe.Proofs.Template.Tags
import ClusterProbe.Proofs.Template.Expressions
import ClusterProbe.Proofs.Template.Filling
import ClusterProbe.Proofs.Template.Grammar
import ClusterProbe.Proofs.Template.Reading
import ClusterProbe.Proofs.Number.Value
import ClusterProbe.Proofs.Json.Entries
import ClusterProbe.Proofs.Json.Equality
import ClusterProbe.Proofs.Json.Inclusion
import ClusterProbe.Proofs.Json.Mismatch
import ClusterProbe.Proofs.Json.Decimals
import ClusterProbe.Proofs.Json.Reading
import ClusterProbe.Proofs.Suite.WellFormed
import ClusterProbe.Proofs.Service.Headers
import ClusterProbe.Proofs.Service.Check
import ClusterProbe.Proofs.Service.Spelling
import ClusterProbe.Proofs.Service.Enforcement
import ClusterProbe.Proofs.FileSystem.Changes
import ClusterProbe.Proofs.Run.Confinement
import ClusterProbe.Proofs.Run.RenderingEffect
import ClusterProbe.Proofs.Run.RenderingOrder
import ClusterProbe.Proofs.Number.Rounding
import ClusterProbe.Proofs.Number.Shortest
import ClusterProbe.Proofs.Number.Layout
import ClusterProbe.Proofs.Json.Nesting
import ClusterProbe.Proofs.Yaml.Scalars
import ClusterProbe.Proofs.Yaml.Words
import ClusterProbe.Proofs.Yaml.Carried
import ClusterProbe.Proofs.Yaml.Tokens
import ClusterProbe.Proofs.Yaml.Nodes
import ClusterProbe.Proofs.Yaml.Tree
import ClusterProbe.Proofs.Yaml.Inline
import ClusterProbe.Proofs.Suite.Order
import ClusterProbe.Proofs.Template.Outcome
import ClusterProbe.Proofs.Template.Joining
import ClusterProbe.Proofs.Template.Problems
import ClusterProbe.Proofs.Json.Navigation
import ClusterProbe.Proofs.Template.Addresses
import ClusterProbe.Proofs.Run.RenderingDependence
import ClusterProbe.Proofs.Text.Octets
import ClusterProbe.Proofs.Url.Form
import ClusterProbe.Proofs.Url.Authority
import ClusterProbe.Proofs.Service.Parameters
import ClusterProbe.Proofs.Service.RequestHeaders
import ClusterProbe.Proofs.Settings.Layers
import ClusterProbe.Proofs.Suite.Choice
import ClusterProbe.Proofs.Run.Reporting
import ClusterProbe.Proofs.FileSystem.Tilde
