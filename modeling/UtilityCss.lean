import UtilityCss.Text.Basic
import UtilityCss.Text.Blank
import UtilityCss.Text.CaseTable
import UtilityCss.Text.DecimalDigit
import UtilityCss.Text.Printable
import UtilityCss.Text.WordCharacter
import UtilityCss.Text.Case
import UtilityCss.Text.Quoted
import UtilityCss.Text.ControlSequence
import UtilityCss.Text.Utf8
import UtilityCss.Vocabulary.Language
import UtilityCss.Vocabulary.Css
import UtilityCss.Numeral
import UtilityCss.Slot
import UtilityCss.Position
import UtilityCss.Token.Basic
import UtilityCss.Token.Classify
import UtilityCss.Token.Lexer
import UtilityCss.Store
import UtilityCss.Record.Basic
import UtilityCss.Record.Tidy
import UtilityCss.Media
import UtilityCss.Statement.Fault
import UtilityCss.Statement.Line
import UtilityCss.Statement.Expansion
import UtilityCss.Statement.Addition
import UtilityCss.Statement.Assignment
import UtilityCss.Statement.Program
import UtilityCss.Text.Caseless
import UtilityCss.Sheet.Fault
import UtilityCss.Sheet.Value
import UtilityCss.Sheet.ClassName
import UtilityCss.Sheet.Layout
import UtilityCss.Sheet.Generate
import UtilityCss.Path
import UtilityCss.FileTree
import UtilityCss.Import.Directive
import UtilityCss.Import.Bundle
import UtilityCss.Sheet.Style
import UtilityCss.Options
import UtilityCss.Error
import UtilityCss.Compile
import UtilityCss.Machine.Cursor
import UtilityCss.Machine.Scanner
import UtilityCss.Machine.Interpreter
import UtilityCss.Display
import UtilityCss.Trace
import UtilityCss.Command.Arguments
import UtilityCss.Command.Request
import UtilityCss.Command.Usage
import UtilityCss.Command.Run
import UtilityCss.Main
import UtilityCss.Proofs.Outcome
import UtilityCss.Proofs.Import.DepthFirst
import UtilityCss.Proofs.Import.Graph
import UtilityCss.Proofs.Import.Traversal
import UtilityCss.Proofs.Import.Resolution
import UtilityCss.Proofs.Record.Distinct
import UtilityCss.Proofs.Record.Elision
import UtilityCss.Proofs.Record.FirstOfKey
import UtilityCss.Proofs.Record.NormalForm
import UtilityCss.Proofs.Statement.Composition
import UtilityCss.Proofs.Token.LineEnd
import UtilityCss.Proofs.Token.Marker
import UtilityCss.Proofs.Layer.Span
import UtilityCss.Proofs.Layer.Sheet
import UtilityCss.Proofs.Layer.Contribution
import UtilityCss.Proofs.Compile.Layers
import UtilityCss.Proofs.Store.Binding
import UtilityCss.Proofs.Store.History
import UtilityCss.Proofs.Statement.Extension
import UtilityCss.Proofs.Layer.Nesting
import UtilityCss.Proofs.Sheet.Modes
import UtilityCss.Proofs.Sheet.Validation
import UtilityCss.Proofs.Sheet.Composition
import UtilityCss.Proofs.Statement.Repetition
import UtilityCss.Proofs.Text.Trim
import UtilityCss.Proofs.Text.Numeral
import UtilityCss.Proofs.Text.Decimal
import UtilityCss.Proofs.Token.Shape
import UtilityCss.Proofs.Token.Unread
import UtilityCss.Proofs.Token.Spelling
import UtilityCss.Proofs.Token.Lines
import UtilityCss.Proofs.Token.Surface
import UtilityCss.Proofs.Token.WrittenValue
import UtilityCss.Proofs.Store.Literal
import UtilityCss.Proofs.Store.UnitSuffix
import UtilityCss.Proofs.Statement.Phrase
import UtilityCss.Proofs.Statement.Substitution
import UtilityCss.Proofs.Statement.Definition
import UtilityCss.Proofs.Media.Characters
import UtilityCss.Proofs.Media.Orientation
import UtilityCss.Proofs.Compile.MediaWidth
import UtilityCss.Proofs.Text.Brackets
import UtilityCss.Proofs.Sheet.LayerLines
import UtilityCss.Proofs.Statement.Atomicity
import UtilityCss.Proofs.Compile.SharedStore
import UtilityCss.Proofs.Token.DigitRuns
import UtilityCss.Proofs.Statement.Faults
import UtilityCss.Proofs.Machine.Cursor
import UtilityCss.Proofs.Machine.Scanner
import UtilityCss.Proofs.Machine.Interpreter
import UtilityCss.Proofs.Compile.Stages
import UtilityCss.Proofs.Statement.Alphabet
import UtilityCss.Proofs.Sheet.Blocks
import UtilityCss.Proofs.Sheet.ClassNames
import UtilityCss.Proofs.Compile.Blocks
import UtilityCss.Proofs.Compile.ClassNames
import UtilityCss.Proofs.Statement.Dependence
import UtilityCss.Proofs.FileTree.Writing
import UtilityCss.Proofs.Command.Output
import UtilityCss.Proofs.Import.Reuse
import UtilityCss.Proofs.Token.BeforeBlank
import UtilityCss.Proofs.Token.PrivateComment
import UtilityCss.Proofs.Statement.PrivateComment
import UtilityCss.Proofs.Statement.Grouping
import UtilityCss.Proofs.Compile.PrivateComment
import UtilityCss.Proofs.Import.Evidence
import UtilityCss.Proofs.Statement.Form
import UtilityCss.Proofs.Text.Words
import UtilityCss.Proofs.Text.Case
import UtilityCss.Proofs.Sheet.Lengths
import UtilityCss.Proofs.FileTree.Paths
import UtilityCss.Proofs.Command.Sources
import UtilityCss.Proofs.Token.Stream
import UtilityCss.Proofs.Token.ErrorPosition
import UtilityCss.Proofs.Import.DirectiveLines
import UtilityCss.Proofs.Token.MeasureRow
import UtilityCss.Proofs.Statement.UnitOverride
import UtilityCss.Proofs.Statement.BareSuffix
