import AccessPolicy.Address.Basic
import AccessPolicy.Address.Text
import AccessPolicy.CommandLine
import AccessPolicy.Condition.AttributeMatcher
import AccessPolicy.Condition.Basic
import AccessPolicy.Condition.HeaderMatcher
import AccessPolicy.Condition.Limits
import AccessPolicy.Condition.TextMatcher
import AccessPolicy.Condition.Trace
import AccessPolicy.Decimal.Shortest
import AccessPolicy.Document.Basic
import AccessPolicy.Document.Load
import AccessPolicy.Document.NameMap
import AccessPolicy.Document.OfJson
import AccessPolicy.Document.OfYaml
import AccessPolicy.Document.Spec
import AccessPolicy.Engine
import AccessPolicy.Error
import AccessPolicy.Fixture.Basic
import AccessPolicy.Fixture.OfYaml
import AccessPolicy.Fraction
import AccessPolicy.Json.Basic
import AccessPolicy.Json.Mismatch
import AccessPolicy.Json.Number
import AccessPolicy.Json.Reader
import AccessPolicy.Json.Token
import AccessPolicy.Limits
import AccessPolicy.Main
import AccessPolicy.Network
import AccessPolicy.Pattern.Basic
import AccessPolicy.Pattern.Blank
import AccessPolicy.Pattern.Bracket
import AccessPolicy.Pattern.Compile
import AccessPolicy.Pattern.Escape
import AccessPolicy.Pattern.Expr
import AccessPolicy.Pattern.Footprint
import AccessPolicy.Pattern.Group
import AccessPolicy.Pattern.Meaning
import AccessPolicy.Pattern.Reader
import AccessPolicy.Pattern.Search
import AccessPolicy.Policy
import AccessPolicy.Proofs.Condition.Limits
import AccessPolicy.Proofs.Document.Compile
import AccessPolicy.Proofs.Document.Keys
import AccessPolicy.Proofs.Document.Place
import AccessPolicy.Proofs.Document.Spec
import AccessPolicy.Proofs.Engine.Decision
import AccessPolicy.Proofs.Engine.Explanation
import AccessPolicy.Proofs.Engine.Lookups
import AccessPolicy.Proofs.Engine.WellFormed
import AccessPolicy.Proofs.Except
import AccessPolicy.Proofs.Headers
import AccessPolicy.Proofs.Json.Reader
import AccessPolicy.Proofs.Network
import AccessPolicy.Proofs.NetworkText
import AccessPolicy.Proofs.Pattern.Acceptance
import AccessPolicy.Proofs.Pattern.Anchors
import AccessPolicy.Proofs.Pattern.Locality
import AccessPolicy.Proofs.Pattern.Spans
import AccessPolicy.Request
import AccessPolicy.Session
import AccessPolicy.Text.Fold
import AccessPolicy.Text.Hex
import AccessPolicy.Text.Integer
import AccessPolicy.Text.Quoted
import AccessPolicy.Unicode.Binary
import AccessPolicy.Unicode.CaseBlock
import AccessPolicy.Unicode.CaseFolding
import AccessPolicy.Unicode.Category
import AccessPolicy.Unicode.CharSet
import AccessPolicy.Unicode.Lowercase
import AccessPolicy.Unicode.Property
import AccessPolicy.Unicode.PropertyRow
import AccessPolicy.Unicode.Script
import AccessPolicy.Unicode.Segmentation
import AccessPolicy.Yaml.Block
import AccessPolicy.Yaml.Place
import AccessPolicy.Yaml.Reader
import AccessPolicy.Yaml.Scalar
import AccessPolicy.Proofs.Document.Limits
import AccessPolicy.Proofs.Document.Order
import AccessPolicy.Proofs.Document.Entries
import AccessPolicy.Proofs.CommandLine
import AccessPolicy.Proofs.Json.Form
import AccessPolicy.Proofs.Json.Grammar
import AccessPolicy.Proofs.Document.Form
import AccessPolicy.Proofs.Document.RoundTrip
import AccessPolicy.Proofs.Fixture
import AccessPolicy.Proofs.Yaml.Common
import AccessPolicy.Proofs.Yaml.Scalar
import AccessPolicy.Proofs.Yaml.Flow
import AccessPolicy.Proofs.Yaml.Fields
import AccessPolicy.Proofs.Document.ObjectForm
import AccessPolicy.Proofs.Document.OfYaml
import AccessPolicy.Proofs.Document.Formats
import AccessPolicy.Proofs.Text.Fold
import AccessPolicy.Proofs.Condition.TextMatcher
import AccessPolicy.Proofs.Condition.Trace
import AccessPolicy.Proofs.Condition.Survey
import AccessPolicy.Proofs.Document.Faults
import AccessPolicy.Proofs.Text.Integer
import AccessPolicy.Proofs.Condition.HeaderMatcher
import AccessPolicy.Proofs.Address.Text
import AccessPolicy.Proofs.Document.Choice
import AccessPolicy.Proofs.NetworkNesting
import AccessPolicy.Proofs.Document.SharedRules
import AccessPolicy.Proofs.Text.Quoted
import AccessPolicy.Proofs.Condition.Description
import AccessPolicy.Proofs.FixtureComplaint
