import Tabular.Expr.Render
import Tabular.Token.Lexer

namespace Tabular.Parse

/-- The lexeme at hand, those behind it up to the first fault, and the number of brackets that are open. Outside
all brackets a line break ends an expression. -/
structure Cursor where
  current : Lexeme
  rest : List Lexeme
  fault : Option ParseError
  depth : Nat

namespace Cursor

def token (c : Cursor) : Token := c.current.token

def advance (c : Cursor) : Except ParseError Cursor :=
  match c.rest, c.fault with
  | l :: ls, _ => .ok { c with current := l, rest := ls }
  | [], some e => .error e
  | [], none => .ok { c with current := ⟨.eof, ⟨false, false⟩⟩ }

def start (s : String) (depth : Nat) : Except ParseError Cursor :=
  match Lexer.scan s.toList with
  | (l :: ls, fault) => .ok ⟨l, ls, fault, depth⟩
  | ([], fault) => .error (fault.getD .unexpectedEnd)

def unexpected (c : Cursor) (wanted : String) : ParseError :=
  match c.token with
  | .eof => .unexpectedEnd
  | found => .expected wanted found.describe

def expect (c : Cursor) (wanted : Token) : Except ParseError Cursor :=
  if c.token = wanted then c.advance else .error (c.unexpected wanted.describe)

def skip (c : Cursor) (optional : Token) : Except ParseError Cursor :=
  if c.token = optional then c.advance else .ok c

def enter (c : Cursor) : Except ParseError Cursor := do
  let c ← c.advance
  return { c with depth := c.depth + 1 }

def leave (c : Cursor) (closing : Token) : Except ParseError Cursor := do
  let c ← c.expect closing
  return { c with depth := c.depth - 1 }

def finish (c : Cursor) : Except ParseError Unit :=
  if c.token = .eof then .ok () else .error (c.unexpected "end of input")

def infixOperator? (c : Cursor) : Option (String × Operator.Binding) :=
  if c.depth = 0 ∧ c.current.gap.newline then none
  else match c.token with
    | .op symbol => (Operator.infixBinding? symbol).map (symbol, ·)
    | _ => none

def endsLine (c : Cursor) : Bool :=
  c.current.gap.newline || c.token == .semicolon || c.token == .ident "end"

/-- Enough steps to read all that is left: no more than eight calls lie between one lexeme and the next. -/
def budget (c : Cursor) : Nat := 8 * (c.rest.length + 2)

end Cursor

end Tabular.Parse
