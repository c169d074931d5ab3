import GraphLoad.Action
import GraphLoad.Cypher.Name
import GraphLoad.Cypher.NodeBatch
import GraphLoad.Cypher.RelationshipBatch
import GraphLoad.Cypher.Statement
import GraphLoad.Failure
import GraphLoad.Json.Decode
import GraphLoad.Json.Printer
import GraphLoad.Json.Reader
import GraphLoad.Json.TextShape
import GraphLoad.Json.Value
import GraphLoad.Log
import GraphLoad.Number.Binary64
import GraphLoad.Number.Decimal
import GraphLoad.Proofs.Action
import GraphLoad.Proofs.Cypher.ElementReading
import GraphLoad.Proofs.Cypher.Lexeme
import GraphLoad.Proofs.Cypher.NodeReading
import GraphLoad.Proofs.Cypher.Outline
import GraphLoad.Proofs.Cypher.Placeholder
import GraphLoad.Proofs.Cypher.Reading
import GraphLoad.Proofs.Cypher.RelationshipReading
import GraphLoad.Proofs.Graph.BatchSize
import GraphLoad.Proofs.Graph.Effect
import GraphLoad.Proofs.Graph.Replay
import GraphLoad.Proofs.Graph.Rows
import GraphLoad.Proofs.Graph.Upsert
import GraphLoad.Proofs.Json.Arranged
import GraphLoad.Proofs.Json.Entries
import GraphLoad.Proofs.Json.Everywhere
import GraphLoad.Proofs.Json.Members
import GraphLoad.Proofs.Json.Outline
import GraphLoad.Proofs.Json.Shapes
import GraphLoad.Proofs.Json.Writing
import GraphLoad.Proofs.Number.Nearest
import GraphLoad.Proofs.Number.Rounding
import GraphLoad.Proofs.Number.Writing
import GraphLoad.Proofs.Record.Distinct
import GraphLoad.Proofs.Record.Endpoint
import GraphLoad.Proofs.Record.Landing
import GraphLoad.Proofs.Record.Leaves
import GraphLoad.Proofs.Record.Lens
import GraphLoad.Proofs.Record.Property
import GraphLoad.Proofs.Record.Writing
import GraphLoad.Proofs.Retry
import GraphLoad.Proofs.Server.Reset
import GraphLoad.Proofs.Server.Transactions
import GraphLoad.Proofs.Specification.Alike
import GraphLoad.Proofs.Specification.Carrying
import GraphLoad.Proofs.Specification.Completeness
import GraphLoad.Proofs.Specification.Elements
import GraphLoad.Proofs.Specification.Outline
import GraphLoad.Proofs.Specification.Placeholders
import GraphLoad.Proofs.Specification.Product
import GraphLoad.Proofs.Specification.Proper
import GraphLoad.Proofs.Specification.Remainder
import GraphLoad.Proofs.Specification.Round
import GraphLoad.Proofs.Specification.RoundTrip
import GraphLoad.Proofs.Specification.Rounds
import GraphLoad.Proofs.Specification.Unexpanded
import GraphLoad.Proofs.Specification.Valid
import GraphLoad.Proofs.Specification.WellFormed
import GraphLoad.Proofs.Text.Digits
import GraphLoad.Proofs.Traversal
import GraphLoad.Proofs.Upload.Account
import GraphLoad.Proofs.Upload.Calls
import GraphLoad.Proofs.Upload.Percentage
import GraphLoad.Proofs.Upload.Stages
import GraphLoad.Proofs.Web.Address
import GraphLoad.Proofs.Web.Path
import GraphLoad.Proofs.Web.Percent
import GraphLoad.Proofs.Web.Segments
import GraphLoad.Proofs.Worker.Decoding
import GraphLoad.Proofs.Worker.Delivery
import GraphLoad.Proofs.Worker.Destination
import GraphLoad.Proofs.Worker.Reports
import GraphLoad.Proofs.Worker.Turns
import GraphLoad.Record.Path
import GraphLoad.Record.Property
import GraphLoad.Record.Record
import GraphLoad.Retry
import GraphLoad.Server.Certificate
import GraphLoad.Server.Connection
import GraphLoad.Server.Link
import GraphLoad.Server.Reset
import GraphLoad.Server.Transaction
import GraphLoad.Specification.Compilation
import GraphLoad.Specification.Expansion
import GraphLoad.Specification.Format
import GraphLoad.Specification.Group
import GraphLoad.Specification.Validation
import GraphLoad.Text.CharSet
import GraphLoad.Text.Composed
import GraphLoad.Text.Digits
import GraphLoad.Text.Pieces
import GraphLoad.Text.Space
import GraphLoad.Text.Visible
import GraphLoad.Time.Instant
import GraphLoad.Time.Rfc3339
import GraphLoad.Upload.Backend
import GraphLoad.Upload.Config
import GraphLoad.Upload.Error
import GraphLoad.Upload.Result
import GraphLoad.Upload.Upload
import GraphLoad.Web.Domain.Character
import GraphLoad.Web.Domain.Direction
import GraphLoad.Web.Domain.Mark
import GraphLoad.Web.Domain.Name
import GraphLoad.Web.Host
import GraphLoad.Web.Ipv4
import GraphLoad.Web.Ipv6
import GraphLoad.Web.Percent
import GraphLoad.Web.Punycode
import GraphLoad.Web.Url
import GraphLoad.Worker.Delivery
import GraphLoad.Worker.Gateway
import GraphLoad.Worker.Job
import GraphLoad.Worker.Queue
import GraphLoad.Worker.Reporter
import GraphLoad.Worker.Settings
import GraphLoad.Worker.Status
