import ImportSeam.Command.Arguments
import ImportSeam.Command.FileTree
import ImportSeam.Command.Host
import ImportSeam.Command.Run
import ImportSeam.Grammar.Escape
import ImportSeam.Grammar.Exchange
import ImportSeam.Grammar.Expression
import ImportSeam.Grammar.Function
import ImportSeam.Grammar.Literal
import ImportSeam.Grammar.Markup
import ImportSeam.Grammar.Member
import ImportSeam.Grammar.Module
import ImportSeam.Grammar.Parser
import ImportSeam.Grammar.Pattern
import ImportSeam.Grammar.Rules
import ImportSeam.Grammar.Statement
import ImportSeam.Grammar.Target
import ImportSeam.Instrument.Binding
import ImportSeam.Instrument.Discovery
import ImportSeam.Instrument.Module
import ImportSeam.Instrument.Reference
import ImportSeam.Instrument.Registration
import ImportSeam.Instrument.Require
import ImportSeam.Instrument.Source
import ImportSeam.Json.Reader
import ImportSeam.Json.Value
import ImportSeam.Layout.Hazard
import ImportSeam.Layout.Piece
import ImportSeam.Layout.Print
import ImportSeam.Layout.Tree
import ImportSeam.Main
import ImportSeam.Number.Basic
import ImportSeam.Number.Shortest
import ImportSeam.Number.Text
import ImportSeam.Options.Basic
import ImportSeam.Options.Filter
import ImportSeam.Options.Reader
import ImportSeam.Pattern.CharSet
import ImportSeam.Pattern.Property
import ImportSeam.Pattern.Reader
import ImportSeam.Pattern.Regex
import ImportSeam.Proofs.Cover.Assignment
import ImportSeam.Proofs.Cover.Beside
import ImportSeam.Proofs.Cover.Expressions
import ImportSeam.Proofs.Cover.Items
import ImportSeam.Proofs.Cover.Literal
import ImportSeam.Proofs.Cover.Parallel
import ImportSeam.Proofs.Cover.Statements
import ImportSeam.Proofs.Cover.Tail
import ImportSeam.Proofs.Cover.Terms
import ImportSeam.Proofs.Cover.Unmarked
import ImportSeam.Proofs.Discovery
import ImportSeam.Proofs.Grammar.Expressions
import ImportSeam.Proofs.Grammar.Formed
import ImportSeam.Proofs.Grammar.Inside
import ImportSeam.Proofs.Grammar.Logic
import ImportSeam.Proofs.Grammar.Progress
import ImportSeam.Proofs.Grammar.Spelled
import ImportSeam.Proofs.Grammar.Statements
import ImportSeam.Proofs.Grammar.Terms
import ImportSeam.Proofs.Layout.Comments
import ImportSeam.Proofs.Layout.Exposed
import ImportSeam.Proofs.Layout.Places
import ImportSeam.Proofs.Lossless
import ImportSeam.Proofs.Markup.Text
import ImportSeam.Proofs.Nesting.Children
import ImportSeam.Proofs.Nesting.Expressions
import ImportSeam.Proofs.Nesting.Row
import ImportSeam.Proofs.Nesting.Span
import ImportSeam.Proofs.Nesting.Statements
import ImportSeam.Proofs.Nesting.Terms
import ImportSeam.Proofs.Number.Decimal
import ImportSeam.Proofs.Number.Radix
import ImportSeam.Proofs.Number.ReadBack
import ImportSeam.Proofs.Number.Rounding
import ImportSeam.Proofs.Placement
import ImportSeam.Proofs.Reference.Bindings
import ImportSeam.Proofs.Reference.Exact
import ImportSeam.Proofs.Reference.Hygiene
import ImportSeam.Proofs.Reference.InPlace
import ImportSeam.Proofs.Reference.Outline
import ImportSeam.Proofs.Reference.Reanalysis
import ImportSeam.Proofs.Reference.Reserved
import ImportSeam.Proofs.Reference.Restore
import ImportSeam.Proofs.Reference.Symbols
import ImportSeam.Proofs.Reference.TopLevel
import ImportSeam.Proofs.Reference.Writes
import ImportSeam.Proofs.Registry.Asking
import ImportSeam.Proofs.Registry.Composing
import ImportSeam.Proofs.Registry.Extending
import ImportSeam.Proofs.Registry.Mockable
import ImportSeam.Proofs.Registry.Mocking
import ImportSeam.Proofs.Registry.Restoring
import ImportSeam.Proofs.Registry.Run
import ImportSeam.Proofs.Registry.Selection
import ImportSeam.Proofs.Registry.Tables
import ImportSeam.Proofs.Republished
import ImportSeam.Proofs.Require.Literal
import ImportSeam.Proofs.Require.Property
import ImportSeam.Proofs.Require.Reading
import ImportSeam.Proofs.Reread.Answer
import ImportSeam.Proofs.Reread.Branching
import ImportSeam.Proofs.Reread.Callee
import ImportSeam.Proofs.Reread.Control
import ImportSeam.Proofs.Reread.Expression
import ImportSeam.Proofs.Reread.Follow
import ImportSeam.Proofs.Reread.Formula
import ImportSeam.Proofs.Reread.Grouping
import ImportSeam.Proofs.Reread.Lexeme
import ImportSeam.Proofs.Reread.Numeral
import ImportSeam.Proofs.Reread.Operand
import ImportSeam.Proofs.Reread.Printed
import ImportSeam.Proofs.Reread.Reading
import ImportSeam.Proofs.Reread.Statement
import ImportSeam.Proofs.Reread.Success
import ImportSeam.Proofs.Reread.Whole
import ImportSeam.Proofs.Scope.Annotated
import ImportSeam.Proofs.Scope.Declared
import ImportSeam.Proofs.Scope.Entries
import ImportSeam.Proofs.Scope.Heads
import ImportSeam.Proofs.Scope.Lexical
import ImportSeam.Proofs.Scope.Outline
import ImportSeam.Proofs.Scope.Settled
import ImportSeam.Proofs.Scope.Tree
import ImportSeam.Proofs.Scope.Widened
import ImportSeam.Proofs.Text.ByteOrder
import ImportSeam.Proofs.Text.Escapes
import ImportSeam.Proofs.Text.Quoted
import ImportSeam.Proofs.Token.Buffer
import ImportSeam.Proofs.Token.Extent
import ImportSeam.Proofs.Token.Gap
import ImportSeam.Proofs.Token.Place
import ImportSeam.Proofs.Token.Reader
import ImportSeam.Proofs.Token.Slice
import ImportSeam.Proofs.Token.Spelling
import ImportSeam.Proofs.Token.Trivia
import ImportSeam.Proofs.Totality.Expressions
import ImportSeam.Proofs.Totality.Source
import ImportSeam.Proofs.Totality.Statements
import ImportSeam.Proofs.Totality.Terms
import ImportSeam.Registry.Basic
import ImportSeam.Registry.Export
import ImportSeam.Registry.Helper
import ImportSeam.Registry.Json
import ImportSeam.Registry.Mock
import ImportSeam.Registry.Overlay
import ImportSeam.Registry.Restore
import ImportSeam.Scope.Analysis
import ImportSeam.Scope.Tree
import ImportSeam.Source.Cursor
import ImportSeam.Source.Loc
import ImportSeam.Text.Alphabetic
import ImportSeam.Text.Blank
import ImportSeam.Text.CaseFolding
import ImportSeam.Text.Category
import ImportSeam.Text.CodePointSet
import ImportSeam.Text.Digit
import ImportSeam.Text.Escaped
import ImportSeam.Text.Identifier
import ImportSeam.Text.Inspect
import ImportSeam.Text.Numeric
import ImportSeam.Text.Quoted
import ImportSeam.Text.Script
import ImportSeam.Text.Utf8
import ImportSeam.Text.WordMark
import ImportSeam.Token.Basic
import ImportSeam.Token.Buffer
import ImportSeam.Token.Keyword
import ImportSeam.Token.Lexer
import ImportSeam.Token.Punctuator
import ImportSeam.Token.Scan
import ImportSeam.Token.SyntaxError
import ImportSeam.Token.Trivia
import ImportSeam.Tree.Basic
import ImportSeam.Tree.Ident
import ImportSeam.Tree.Names
import ImportSeam.Tree.Operator
import ImportSeam.Tree.Part
