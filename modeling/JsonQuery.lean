import JsonQuery.Document.Draft
import JsonQuery.Document.Index
import JsonQuery.Document.Path
import JsonQuery.Document.Place
import JsonQuery.Eval
import JsonQuery.Function.Basic
import JsonQuery.Function.Collection
import JsonQuery.Function.Sort
import JsonQuery.Function.Standard
import JsonQuery.Function.Text
import JsonQuery.Json.Basic
import JsonQuery.Json.Describe
import JsonQuery.Json.Number
import JsonQuery.Json.Reader
import JsonQuery.Json.Writer
import JsonQuery.Main
import JsonQuery.Number.Binary
import JsonQuery.Number.Decimal
import JsonQuery.Number.Layout
import JsonQuery.Number.Nearest
import JsonQuery.Number.Numeral
import JsonQuery.Number.Shortest
import JsonQuery.Pattern.Basic
import JsonQuery.Pattern.CharClass
import JsonQuery.Pattern.Program
import JsonQuery.Pattern.Property
import JsonQuery.Pattern.Reader
import JsonQuery.Pattern.Replacement
import JsonQuery.Pattern.Room
import JsonQuery.Pattern.Search
import JsonQuery.Proofs.Document.Along
import JsonQuery.Proofs.Document.Apart
import JsonQuery.Proofs.Document.Bounds
import JsonQuery.Proofs.Document.Fill
import JsonQuery.Proofs.Document.Focus
import JsonQuery.Proofs.Document.InPlace
import JsonQuery.Proofs.Document.Independence
import JsonQuery.Proofs.Document.Interval
import JsonQuery.Proofs.Document.Slot
import JsonQuery.Proofs.Document.Write
import JsonQuery.Proofs.Eval.Address
import JsonQuery.Proofs.Eval.Chain
import JsonQuery.Proofs.Eval.Failure
import JsonQuery.Proofs.Eval.FanOut
import JsonQuery.Proofs.Eval.Lens
import JsonQuery.Proofs.Eval.Navigation
import JsonQuery.Proofs.Eval.Nesting
import JsonQuery.Proofs.Eval.Plain
import JsonQuery.Proofs.Eval.Printable
import JsonQuery.Proofs.Eval.Reach
import JsonQuery.Proofs.Eval.Reading
import JsonQuery.Proofs.Eval.Safety
import JsonQuery.Proofs.Eval.Scope
import JsonQuery.Proofs.Eval.Steps
import JsonQuery.Proofs.Eval.Writing
import JsonQuery.Proofs.Except
import JsonQuery.Proofs.Function.Comparison
import JsonQuery.Proofs.Function.Selection
import JsonQuery.Proofs.Function.Sort
import JsonQuery.Proofs.Function.Standard
import JsonQuery.Proofs.Function.Sum
import JsonQuery.Proofs.Json.Finite
import JsonQuery.Proofs.Json.Lawful
import JsonQuery.Proofs.Json.Read
import JsonQuery.Proofs.Json.RoundTrip
import JsonQuery.Proofs.Number.Accumulation
import JsonQuery.Proofs.Number.Decimal
import JsonQuery.Proofs.Number.Integer
import JsonQuery.Proofs.Number.Magnitude
import JsonQuery.Proofs.Number.Nearest
import JsonQuery.Proofs.Number.Order
import JsonQuery.Proofs.Number.Rounding
import JsonQuery.Proofs.Query.Canonical
import JsonQuery.Proofs.Query.Complete
import JsonQuery.Proofs.Query.Composition
import JsonQuery.Proofs.Query.Cursor
import JsonQuery.Proofs.Query.Ending
import JsonQuery.Proofs.Query.Faithful
import JsonQuery.Proofs.Query.Following
import JsonQuery.Proofs.Query.Grammar
import JsonQuery.Proofs.Query.Lexical
import JsonQuery.Proofs.Query.Locality
import JsonQuery.Proofs.Query.Lockstep
import JsonQuery.Proofs.Query.Lookahead
import JsonQuery.Proofs.Query.Parsing
import JsonQuery.Proofs.Query.Phrase
import JsonQuery.Proofs.Query.Progress
import JsonQuery.Proofs.Query.Rounds
import JsonQuery.Proofs.Query.Shape
import JsonQuery.Proofs.Query.Sound
import JsonQuery.Proofs.Query.Untyped
import JsonQuery.Proofs.Query.Viable
import JsonQuery.Proofs.Query.Walk
import JsonQuery.Proofs.Shell.Program
import JsonQuery.Query.Basic
import JsonQuery.Query.Cursor
import JsonQuery.Query.Fault
import JsonQuery.Query.Reader
import JsonQuery.RuntimeError
import JsonQuery.Shell.Arguments
import JsonQuery.Shell.Program
import JsonQuery.Shell.Session
import JsonQuery.Text.Blank
import JsonQuery.Text.Break
import JsonQuery.Text.Case
import JsonQuery.Text.Category
import JsonQuery.Text.CodeSet
import JsonQuery.Text.Derived
import JsonQuery.Text.Encoding
import JsonQuery.Text.Ranges
import JsonQuery.Text.Table.Age
import JsonQuery.Text.Table.CaseMapping
import JsonQuery.Text.Table.Cased
import JsonQuery.Text.Table.Contributory
import JsonQuery.Text.Table.Emoji
import JsonQuery.Text.Table.Folding
import JsonQuery.Text.Table.GraphemeExtend
import JsonQuery.Text.Table.Letter
import JsonQuery.Text.Table.Mark
import JsonQuery.Text.Table.Number
import JsonQuery.Text.Table.Property
import JsonQuery.Text.Table.Punctuation
import JsonQuery.Text.Table.Script
import JsonQuery.Text.Table.Separator
import JsonQuery.Text.Table.Unprintable
