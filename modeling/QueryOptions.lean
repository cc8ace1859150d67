import QueryOptions.Main
import QueryOptions.Proofs.Conjunction.OpenQuote
import QueryOptions.Proofs.Conjunction.NormalForm
import QueryOptions.Proofs.Clause.Layout
import QueryOptions.Proofs.Form.Mapping
import QueryOptions.Proofs.Literal.Survival
import QueryOptions.Proofs.Literal.Lossless
import QueryOptions.Proofs.Query.Writing
import QueryOptions.Proofs.Query.OfUrl
import QueryOptions.Proofs.Query.KeyStyle
import QueryOptions.Proofs.Query.LastValue
import QueryOptions.Proofs.Query.Arbitrary
import QueryOptions.Proofs.Json.Token
import QueryOptions.Proofs.Json.Reading
import QueryOptions.Proofs.Json.Number
import QueryOptions.Proofs.Query.Json
import QueryOptions.Proofs.Query.Undecodable
import QueryOptions.Proofs.Query.OrderBy
import QueryOptions.Proofs.Query.Values
import QueryOptions.Proofs.Query.FirstError
import QueryOptions.Proofs.Query.Fields
import QueryOptions.Proofs.Literal.Classification
import QueryOptions.Proofs.CommandLine.Arguments
import QueryOptions.Proofs.CommandLine.Run
import QueryOptions.Proofs.Number.Cast
import QueryOptions.Proofs.Query.Pasting
import QueryOptions.Proofs.Conjunction.Scan
