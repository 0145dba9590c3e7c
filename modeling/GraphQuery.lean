import GraphQuery.Aggregate
import GraphQuery.Block
import GraphQuery.Comparison
import GraphQuery.ConstructionError
import GraphQuery.Datatype
import GraphQuery.Distinct
import GraphQuery.Evaluator
import GraphQuery.Expression.Basic
import GraphQuery.Expression.Evaluate
import GraphQuery.Filter
import GraphQuery.Graph
import GraphQuery.Group
import GraphQuery.Iri
import GraphQuery.Language
import GraphQuery.Number.Binary.Basic
import GraphQuery.Number.Binary.Text
import GraphQuery.Number.Decimal
import GraphQuery.Number.Integer
import GraphQuery.Number.Numeric
import GraphQuery.Path
import GraphQuery.Pattern
import GraphQuery.Query
import GraphQuery.Regex.Ast
import GraphQuery.Regex.Basic
import GraphQuery.Regex.CharSet
import GraphQuery.Regex.Parser
import GraphQuery.Row
import GraphQuery.Source.Basic
import GraphQuery.Source.Report
import GraphQuery.Source.Run
import GraphQuery.Table.Algebra
import GraphQuery.Table.Basic
import GraphQuery.Term.Basic
import GraphQuery.Term.Parser
import GraphQuery.Term.Printer
import GraphQuery.Text.Alphanumeric
import GraphQuery.Text.Basic
import GraphQuery.Text.Case
import GraphQuery.Text.CaseTable
import GraphQuery.Text.Category
import GraphQuery.Text.Property
import GraphQuery.Text.Ranges
import GraphQuery.Text.Script
import GraphQuery.Time.Duration
import GraphQuery.Time.Moment
import GraphQuery.Value
import GraphQuery.Values
import GraphQuery.Variable
import GraphQuery.Proofs.Abbreviated
import GraphQuery.Proofs.Antisymmetry
import GraphQuery.Proofs.Arithmetic
import GraphQuery.Proofs.Assignment
import GraphQuery.Proofs.Bindings
import GraphQuery.Proofs.Boundary
import GraphQuery.Proofs.Canonical
import GraphQuery.Proofs.CanonicalResults
import GraphQuery.Proofs.Chain
import GraphQuery.Proofs.Columns
import GraphQuery.Proofs.Compiled
import GraphQuery.Proofs.Concatenation
import GraphQuery.Proofs.Conjunction
import GraphQuery.Proofs.Dependence
import GraphQuery.Proofs.Disjunction
import GraphQuery.Proofs.Existence
import GraphQuery.Proofs.Extrema
import GraphQuery.Proofs.Failure
import GraphQuery.Proofs.Federation
import GraphQuery.Proofs.FilterExpression
import GraphQuery.Proofs.FilterPlacement
import GraphQuery.Proofs.FilterRenaming
import GraphQuery.Proofs.GroupRenaming
import GraphQuery.Proofs.Growth
import GraphQuery.Proofs.InlineValues
import GraphQuery.Proofs.IriCharacters
import GraphQuery.Proofs.Joining
import GraphQuery.Proofs.LanguageRange
import GraphQuery.Proofs.LanguageTag
import GraphQuery.Proofs.Layout
import GraphQuery.Proofs.LeftJoin
import GraphQuery.Proofs.LiteralPattern
import GraphQuery.Proofs.Local
import GraphQuery.Proofs.Matching
import GraphQuery.Proofs.MemberFailure
import GraphQuery.Proofs.Membership
import GraphQuery.Proofs.NumberText
import GraphQuery.Proofs.Partitions
import GraphQuery.Proofs.PathRenaming
import GraphQuery.Proofs.PlanShape
import GraphQuery.Proofs.Provenance
import GraphQuery.Proofs.QuerySyntax
import GraphQuery.Proofs.QuotedText
import GraphQuery.Proofs.Reading
import GraphQuery.Proofs.Reflexivity
import GraphQuery.Proofs.Renaming
import GraphQuery.Proofs.Rounding
import GraphQuery.Proofs.Row
import GraphQuery.Proofs.Similar
import GraphQuery.Proofs.SourceColumns
import GraphQuery.Proofs.Table
import GraphQuery.Proofs.TermGrammar
import GraphQuery.Proofs.Transitivity
import GraphQuery.Proofs.Traversal
import GraphQuery.Proofs.Unambiguous
import GraphQuery.Proofs.UnexpectedChar
import GraphQuery.Proofs.UnionDistribution
import GraphQuery.Proofs.Walks
