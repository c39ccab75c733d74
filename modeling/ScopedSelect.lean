import ScopedSelect.Value.Document
import ScopedSelect.Query.Run
import ScopedSelect.Proofs.Condition.Collapse
import ScopedSelect.Proofs.Condition.Grammar
import ScopedSelect.Proofs.Condition.Precedence
import ScopedSelect.Proofs.Condition.Test
import ScopedSelect.Proofs.Condition.Trail
import ScopedSelect.Proofs.Condition.Tree
import ScopedSelect.Proofs.Condition.WellFormed
import ScopedSelect.Proofs.Query.History
import ScopedSelect.Proofs.Query.Sections
import ScopedSelect.Proofs.Query.Statement
import ScopedSelect.Proofs.Text.Boundary
import ScopedSelect.Proofs.Text.Clip
import ScopedSelect.Proofs.Text.Separated
import ScopedSelect.Proofs.Value.Word
import ScopedSelect.Proofs.Query.Record
import ScopedSelect.Proofs.Query.Selection
import ScopedSelect.Proofs.Query.Reports
import ScopedSelect.Proofs.Json.Elements
import ScopedSelect.Proofs.Value.Ways
import ScopedSelect.Proofs.Binary.Order
import ScopedSelect.Proofs.Binary.Value
import ScopedSelect.Proofs.Binary.Nearest
import ScopedSelect.Proofs.Decimal.Value
import ScopedSelect.Proofs.Binary.Shortest
import ScopedSelect.Proofs.Json.Numeral
import ScopedSelect.Proofs.Json.Text
import ScopedSelect.Proofs.Json.Spelling
import ScopedSelect.Proofs.Json.Reading
import ScopedSelect.Proofs.Value.Reread
import ScopedSelect.Proofs.Binary.Coarsest
import ScopedSelect.Proofs.Binary.Digits
import ScopedSelect.Proofs.Binary.Text
import ScopedSelect.Proofs.Value.Literal
import ScopedSelect.Proofs.Value.Single
import ScopedSelect.Proofs.Text.Quoted
import ScopedSelect.Proofs.Query.Message
import ScopedSelect.Proofs.Condition.Construction
import ScopedSelect.Proofs.Json.Literal
import ScopedSelect.Proofs.Json.Integer
import ScopedSelect.Proofs.Value.Number
import ScopedSelect.Proofs.Binary.Widening
import ScopedSelect.Proofs.Value.Scalar
import ScopedSelect.Proofs.Condition.Parentheses
import ScopedSelect.Proofs.Value.Agreement
import ScopedSelect.Proofs.Condition.Agreement
import ScopedSelect.Proofs.Query.Rendering
