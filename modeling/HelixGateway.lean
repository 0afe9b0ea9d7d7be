import HelixGateway.OrdMap
import HelixGateway.Text.Percent
import HelixGateway.Text.Encoding
import HelixGateway.Json.Plain
import HelixGateway.Json.Writer
import HelixGateway.Json.Reader
import HelixGateway.Json.Canonical
import HelixGateway.HelixType.Coercion
import HelixGateway.Query.Parser
import HelixGateway.Schema.Parser
import HelixGateway.Parameters
import HelixGateway.Passthrough
import HelixGateway.Introspection
import HelixGateway.AccessLog
import HelixGateway.Definitions
import HelixGateway.Config
import HelixGateway.Metadata
import HelixGateway.Service
import HelixGateway.Main
import HelixGateway.Proofs.Schema.Significant
import HelixGateway.Proofs.Schema.Written
import HelixGateway.Proofs.Schema.BodyLines
import HelixGateway.Proofs.Schema.RoundTrip
import HelixGateway.Proofs.Decimal.WholeNumber
import HelixGateway.Proofs.Decimal.Positional
import HelixGateway.Proofs.Decimal.Nearest
import HelixGateway.Proofs.Decimal.LastPlace
import HelixGateway.Proofs.Decimal.Rounding
import HelixGateway.Proofs.Parameters.Typing
import HelixGateway.Proofs.Address
import HelixGateway.Proofs.Client
import HelixGateway.Proofs.Parameters.PathValue
import HelixGateway.Proofs.Query.Paths
import HelixGateway.Proofs.Service.Run
import HelixGateway.Proofs.Json.Reordering
import HelixGateway.Proofs.Service.Endpoints
import HelixGateway.Proofs.Service.Answer
import HelixGateway.Proofs.Passthrough
import HelixGateway.Proofs.Schema.Concatenation
import HelixGateway.Proofs.Query.Camel
import HelixGateway.Proofs.Introspection
import HelixGateway.Proofs.Service.Derived
import HelixGateway.Proofs.Query.RoundTrip
import HelixGateway.Proofs.Json.Alike
import HelixGateway.Proofs.Service.Confinement
import HelixGateway.Proofs.Service.Introspected
import HelixGateway.Proofs.Json.Idempotence
import HelixGateway.Proofs.Service.Canonical
import HelixGateway.Proofs.Schema.Document
import HelixGateway.Proofs.Service.ApiKey
import HelixGateway.Proofs.Metadata
import HelixGateway.Proofs.Json.Paths
import HelixGateway.Proofs.Json.KeyOrder
import HelixGateway.Proofs.HelixType.Grammar
import HelixGateway.Proofs.HelixType.Integers
import HelixGateway.Proofs.HelixType.Numbers
import HelixGateway.Proofs.Parameters.Blanks
import HelixGateway.Proofs.Parameters.Values
import HelixGateway.Proofs.Service.Precedence
import HelixGateway.Proofs.HelixType.FloatLists
import HelixGateway.Proofs.HelixType.Normalization
import HelixGateway.Proofs.Schema.EdgeBlock
import HelixGateway.Proofs.Schema.Comment
import HelixGateway.Proofs.Service.Resolution
import HelixGateway.Proofs.Definitions
import HelixGateway.Proofs.Service.Survey
import HelixGateway.Proofs.AccessLog
import HelixGateway.Proofs.Schema.References
import HelixGateway.Proofs.CommandLine.Ports
import HelixGateway.Proofs.Schema.Locality
