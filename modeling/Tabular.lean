import Tabular.Argument
import Tabular.Bind
import Tabular.Bindings
import Tabular.Call
import Tabular.Closure
import Tabular.Config.Text
import Tabular.Construct
import Tabular.Decimal.Binary
import Tabular.Decimal.Layout
import Tabular.Decimal.Shortest
import Tabular.Error
import Tabular.Eval.Builtins
import Tabular.Eval.Interpreter
import Tabular.Eval.Operation
import Tabular.Eval.Rows
import Tabular.Expr.Basic
import Tabular.Expr.Render
import Tabular.Expr.Resolve
import Tabular.Flags
import Tabular.Json
import Tabular.Json.Number
import Tabular.Json.Reader
import Tabular.Json.Render
import Tabular.Json.Tree
import Tabular.Names
import Tabular.Operator
import Tabular.Parse
import Tabular.Parse.Cursor
import Tabular.Parse.Grammar
import Tabular.Parse.Reading
import Tabular.Parse.Shape
import Tabular.Proofs.Abstraction
import Tabular.Proofs.Acceptance
import Tabular.Proofs.Arguments
import Tabular.Proofs.Balance
import Tabular.Proofs.Binding
import Tabular.Proofs.Bindings
import Tabular.Proofs.Broadcasting
import Tabular.Proofs.Budget
import Tabular.Proofs.CalledColumns
import Tabular.Proofs.Calls
import Tabular.Proofs.Collection
import Tabular.Proofs.CollectionBody
import Tabular.Proofs.CollectionLines
import Tabular.Proofs.CollectionReading
import Tabular.Proofs.CollectionShape
import Tabular.Proofs.Columns
import Tabular.Proofs.Depth
import Tabular.Proofs.DynamicTargets
import Tabular.Proofs.EarliestFault
import Tabular.Proofs.FieldVariables
import Tabular.Proofs.FlagSets
import Tabular.Proofs.FlagSpelling
import Tabular.Proofs.Follows
import Tabular.Proofs.Hygiene
import Tabular.Proofs.Identifiers
import Tabular.Proofs.InfixChains
import Tabular.Proofs.Invocations
import Tabular.Proofs.LateNames
import Tabular.Proofs.Legibility
import Tabular.Proofs.Lexemes
import Tabular.Proofs.LineBreaks
import Tabular.Proofs.LineByLine
import Tabular.Proofs.Lockstep
import Tabular.Proofs.Meaning
import Tabular.Proofs.MentionedNames
import Tabular.Proofs.NameSupply
import Tabular.Proofs.Names
import Tabular.Proofs.Nesting
import Tabular.Proofs.Nodes
import Tabular.Proofs.Nodewise
import Tabular.Proofs.NormalForms
import Tabular.Proofs.Parameters
import Tabular.Proofs.Phrases
import Tabular.Proofs.Ranges
import Tabular.Proofs.Readback
import Tabular.Proofs.Recognition
import Tabular.Proofs.References
import Tabular.Proofs.Register
import Tabular.Proofs.Rereading
import Tabular.Proofs.Resolution
import Tabular.Proofs.Retargeting
import Tabular.Proofs.Rewriting
import Tabular.Proofs.RoundTrip
import Tabular.Proofs.Rounds
import Tabular.Proofs.Rows
import Tabular.Proofs.Same
import Tabular.Proofs.Scanning
import Tabular.Proofs.Simulation
import Tabular.Proofs.SinkNames
import Tabular.Proofs.Spelling
import Tabular.Proofs.StaticSpelling
import Tabular.Proofs.Termination
import Tabular.Proofs.Transformations
import Tabular.Sink
import Tabular.Table
import Tabular.TableGroup
import Tabular.Text.Character
import Tabular.Text.Printable
import Tabular.Text.Quoted
import Tabular.Text.Split
import Tabular.Text.Uppercase
import Tabular.Token
import Tabular.Token.Lexer
import Tabular.Triple
import Tabular.Value
