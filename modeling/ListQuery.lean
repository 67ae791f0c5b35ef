import ListQuery.Calendar.Date
import ListQuery.Calendar.DateText
import ListQuery.Calendar.Moment
import ListQuery.Calendar.MomentText
import ListQuery.Calendar.Week
import ListQuery.Entity.Basic
import ListQuery.Entity.Declaration
import ListQuery.Entity.Hierarchy
import ListQuery.Field.Kind
import ListQuery.Field.ScalarKind
import ListQuery.Filter.Combinator
import ListQuery.Filter.Comparator
import ListQuery.Filter.Compile
import ListQuery.Filter.Operator
import ListQuery.Filter.Spec
import ListQuery.Find.Args
import ListQuery.Find.Assemble
import ListQuery.Find.Config
import ListQuery.Find.Page
import ListQuery.Input.Attribute
import ListQuery.Input.Basic
import ListQuery.Input.Name
import ListQuery.Input.Read
import ListQuery.Input.Record
import ListQuery.Input.Types
import ListQuery.Notice
import ListQuery.Number.Binary64
import ListQuery.Number.Numeral
import ListQuery.Number.Shortest
import ListQuery.Ordered
import ListQuery.Registry.Basic
import ListQuery.Registry.Bootstrap
import ListQuery.Registry.Request
import ListQuery.Sort.Direction
import ListQuery.Sort.Spec
import ListQuery.Sql.Clause
import ListQuery.Sql.ClauseText
import ListQuery.Sql.Coerce
import ListQuery.Sql.Describe
import ListQuery.Sql.Fragment
import ListQuery.Sql.Order
import ListQuery.Sql.Raw
import ListQuery.Sql.Schema
import ListQuery.Sql.Statement
import ListQuery.Sql.Where
import ListQuery.Text.Blank
import ListQuery.Text.Cased
import ListQuery.Text.CharSet
import ListQuery.Text.Compatibility
import ListQuery.Text.Digit
import ListQuery.Text.LowerCase
import ListQuery.Text.Printable
import ListQuery.Text.Quoted
import ListQuery.Text.WordChar
import ListQuery.Value.Basic
import ListQuery.Value.Bound
import ListQuery.Value.Key
import ListQuery.Value.Literal
import ListQuery.Value.Plain
import ListQuery.Proofs.Entity.Inheritance
import ListQuery.Proofs.Filter.Assembly
import ListQuery.Proofs.Filter.Compiled
import ListQuery.Proofs.Filter.Conditions
import ListQuery.Proofs.Filter.Conjoining
import ListQuery.Proofs.Filter.Depth
import ListQuery.Proofs.Filter.Discards
import ListQuery.Proofs.Filter.Fidelity
import ListQuery.Proofs.Filter.KeyOrder
import ListQuery.Proofs.Filter.Levels
import ListQuery.Proofs.Filter.Meaning
import ListQuery.Proofs.Filter.Narrowing
import ListQuery.Proofs.Filter.Operators
import ListQuery.Proofs.Filter.Origin
import ListQuery.Proofs.Filter.Regrouping
import ListQuery.Proofs.Filter.Regular
import ListQuery.Proofs.Filter.Settled
import ListQuery.Proofs.Filter.Shape
import ListQuery.Proofs.Filter.Visits
import ListQuery.Proofs.Find.Environment
import ListQuery.Proofs.Find.Inference
import ListQuery.Proofs.Find.Pages
import ListQuery.Proofs.Find.Stages
import ListQuery.Proofs.Input.AttributeName
import ListQuery.Proofs.Input.Building
import ListQuery.Proofs.Input.Closed
import ListQuery.Proofs.Input.Generated
import ListQuery.Proofs.Input.Nulls
import ListQuery.Proofs.Input.Slots
import ListQuery.Proofs.Input.Sortable
import ListQuery.Proofs.Input.Typed
import ListQuery.Proofs.Input.TypedFilter
import ListQuery.Proofs.Input.TypedOrder
import ListQuery.Proofs.Number.Decimal
import ListQuery.Proofs.Registry.Agreement
import ListQuery.Proofs.Registry.Attaching
import ListQuery.Proofs.Registry.Completion
import ListQuery.Proofs.Registry.History
import ListQuery.Proofs.Registry.InPlace
import ListQuery.Proofs.Registry.Lifecycle
import ListQuery.Proofs.Registry.Memory
import ListQuery.Proofs.Registry.References
import ListQuery.Proofs.Registry.TwoPhase
import ListQuery.Proofs.Sort.Grammar
import ListQuery.Proofs.Sort.Normal
import ListQuery.Proofs.Sql.Blanking
import ListQuery.Proofs.Sql.Complements
import ListQuery.Proofs.Sql.Conforming
import ListQuery.Proofs.Sql.Criteria
import ListQuery.Proofs.Sql.Described
import ListQuery.Proofs.Sql.Evaluation
import ListQuery.Proofs.Sql.Meaning
import ListQuery.Proofs.Sql.Operands
import ListQuery.Proofs.Sql.OrderPaths
import ListQuery.Proofs.Sql.Outline
import ListQuery.Proofs.Sql.RawGate
import ListQuery.Proofs.Sql.Sorting
import ListQuery.Proofs.Sql.Translation
import ListQuery.Proofs.Sql.Truth
import ListQuery.Proofs.Text.Ascii
import ListQuery.Proofs.Value.Alike
import ListQuery.Proofs.Value.Parts
