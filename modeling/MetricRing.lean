import MetricRing.Digest.Md5
import MetricRing.Text.Blank
import MetricRing.Text.Ranges
import MetricRing.Text.Printable
import MetricRing.Text.GraphemeExtend
import MetricRing.Text.Quoted
import MetricRing.Text.CaseMap
import MetricRing.Text.PathName
import MetricRing.Number.Binary64
import MetricRing.Number.Reading
import MetricRing.Ring.Position
import MetricRing.Ring.Node
import MetricRing.Ring.Store
import MetricRing.Ring.Basic
import MetricRing.Ring.Lookup
import MetricRing.Metric
import MetricRing.Archive.Path
import MetricRing.Archive.Field
import MetricRing.Archive.Header
import MetricRing.Archive.Output
import MetricRing.Archive.Writer
import MetricRing.Archive.Reader
import MetricRing.Fetch.Basic
import MetricRing.Fetch.Http
import MetricRing.Export.Plan
import MetricRing.Export.Run
import MetricRing.Json.Reader
import MetricRing.Config.Value
import MetricRing.Config.Error
import MetricRing.Config.Coerce
import MetricRing.Config.Toml.Lexer
import MetricRing.Config.Toml.Parser
import MetricRing.Config.Toml.Tables
import MetricRing.Config.Ini
import MetricRing.Config.Yaml.Scanner
import MetricRing.Config.Yaml.Events
import MetricRing.Config.Yaml.Compose
import MetricRing.Config.Yaml
import MetricRing.Config.Hjson
import MetricRing.Config.Format
import MetricRing.Config.Layers
import MetricRing.Config.Settings
import MetricRing.Cli.Grammar
import MetricRing.Cli.Suggest
import MetricRing.Cli.Help
import MetricRing.Cli.Parse
import MetricRing.Cli.Options
import MetricRing.Cli.Program
import MetricRing.Main
import MetricRing.Proofs.Ring.Store
import MetricRing.Proofs.Ring.Invariant
import MetricRing.Proofs.Ring.Owners
import MetricRing.Proofs.Ring.Disruption
import MetricRing.Proofs.Ring.History
import MetricRing.Proofs.Ring.Order
import MetricRing.Proofs.Ring.NodeText
import MetricRing.Export.Pipeline
import MetricRing.Proofs.Export.Steps
import MetricRing.Proofs.Export.Shutdown
import MetricRing.Proofs.Export.Accounting
import MetricRing.Proofs.Archive.Paths
import MetricRing.Proofs.Export.Plan
import MetricRing.Proofs.Archive.Fields
import MetricRing.Proofs.Archive.NameField
import MetricRing.Proofs.Archive.PathNames
import MetricRing.Proofs.Archive.Entries
import MetricRing.Proofs.Archive.RoundTrip
