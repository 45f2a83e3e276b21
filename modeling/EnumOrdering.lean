import EnumOrdering.Text.Utf8
import EnumOrdering.Text.Blank
import EnumOrdering.Text.Hidden
import EnumOrdering.Text.Quoted
import EnumOrdering.Decimal.Integer
import EnumOrdering.Decimal.Binary64
import EnumOrdering.Decimal.Shortest
import EnumOrdering.Mismatch
import EnumOrdering.Json.Fault
import EnumOrdering.Json.Reader
import EnumOrdering.Json.Text
import EnumOrdering.Json.Number
import EnumOrdering.Json.Skip
import EnumOrdering.Json.Value
import EnumOrdering.Json.Compact
import EnumOrdering.Mapping
import EnumOrdering.Failure
import EnumOrdering.Json.Typed
import EnumOrdering.Definition
import EnumOrdering.Policy
import EnumOrdering.Operation
import EnumOrdering.Request
import EnumOrdering.CacheKey
import EnumOrdering.FieldColumn
import EnumOrdering.Evaluator
import EnumOrdering.Report
import EnumOrdering.Event
import EnumOrdering.Store
import EnumOrdering.Ranker
import EnumOrdering.Files.Path
import EnumOrdering.Source.Directory
import EnumOrdering.Files.Tree
import EnumOrdering.Scoring
import EnumOrdering.Published
import EnumOrdering.Http.MediaType
import EnumOrdering.Http.ScoreBody
import EnumOrdering.Http.Router
import EnumOrdering.Net.Address
import EnumOrdering.Net.SocketAddress
import EnumOrdering.Unicode.CodeSet
import EnumOrdering.Unicode.Mark
import EnumOrdering.Unicode.Composition
import EnumOrdering.Unicode.Direction
import EnumOrdering.Unicode.Joining
import EnumOrdering.Url.Percent
import EnumOrdering.Url.Punycode
import EnumOrdering.Url.NameMapping
import EnumOrdering.Url.DomainName
import EnumOrdering.Url.Path
import EnumOrdering.Url.Host
import EnumOrdering.Url.Basic
import EnumOrdering.Url.Parse
import EnumOrdering.Source.Remote
import EnumOrdering.Source.Basic
import EnumOrdering.Session
import EnumOrdering.Toml.Reader
import EnumOrdering.Toml.Text
import EnumOrdering.Toml.Number
import EnumOrdering.Toml.Moment
import EnumOrdering.Toml.Node
import EnumOrdering.Toml.Document
import EnumOrdering.Config.Fault
import EnumOrdering.Config.Decode
import EnumOrdering.Config.Basic
import EnumOrdering.CommandLine.Arguments
import EnumOrdering.CommandLine.Help
import EnumOrdering.CommandLine.Run
import EnumOrdering.Main
import EnumOrdering.Proofs.Course
import EnumOrdering.Proofs.Handler
import EnumOrdering.Proofs.Change
import EnumOrdering.Proofs.Description
import EnumOrdering.Proofs.Provenance
import EnumOrdering.Proofs.Noninterference
import EnumOrdering.Proofs.Text.Utf8
import EnumOrdering.Proofs.Json.Reads
import EnumOrdering.Proofs.Json.NumberText
import EnumOrdering.Proofs.Json.StringText
import EnumOrdering.Proofs.Json.ContainerText
import EnumOrdering.Proofs.Json.SkippedText
import EnumOrdering.Proofs.Json.ValueText
import EnumOrdering.Proofs.LastWins
import EnumOrdering.Proofs.RecordText
import EnumOrdering.Proofs.DefinitionText
import EnumOrdering.Proofs.FieldColumn
import EnumOrdering.Proofs.Scoring
import EnumOrdering.Proofs.FrontEnds
import EnumOrdering.Proofs.Documents
import EnumOrdering.Proofs.History
import EnumOrdering.Proofs.Keys
import EnumOrdering.Proofs.Accounting
import EnumOrdering.Proofs.DocumentText
import EnumOrdering.Proofs.Json.Written
import EnumOrdering.Proofs.Published
import EnumOrdering.Proofs.ReloadMark
import EnumOrdering.Proofs.Json.Detached
import EnumOrdering.Proofs.Directory
import EnumOrdering.Proofs.CutOff
import EnumOrdering.Proofs.Json.Skippable
import EnumOrdering.Proofs.Json.Assembled
import EnumOrdering.Proofs.Topologies
import EnumOrdering.Proofs.Json.Member
import EnumOrdering.Proofs.Http.Body
import EnumOrdering.Proofs.Http.Exchanges
import EnumOrdering.Proofs.Text.ByteOrder
import EnumOrdering.Proofs.Entries
import EnumOrdering.Proofs.Tokens
import EnumOrdering.Proofs.FileNames
import EnumOrdering.Proofs.Json.IntegerText
import EnumOrdering.Proofs.ValuePlaces
import EnumOrdering.Proofs.IntegerValues
import EnumOrdering.Proofs.Trail
import EnumOrdering.Proofs.UnfitValues
import EnumOrdering.Proofs.GrowingColumn
