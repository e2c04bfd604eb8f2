import Tabular.Construct
import Tabular.Parse.Grammar

namespace Tabular

namespace Parse

variable {ε : Type} [Reading ε] (steps : Cursor → Nat)

def readExpr (s : String) : Except ε Expr := do
  let c ← Cursor.start s 0
  let (e, c) ← argument (steps c) c
  c.finish
  return e

def readArgs (s : String) : Except ε Arguments := do
  let c ← Cursor.start s 1
  let (as, c) ← arguments (steps c) .eof false false c
  c.finish
  return as

def readBracketed (construct : Construct) (c : Cursor) : Except ε (Invocation × Cursor) := do
  let c ← c.enter
  let (table, c) ← infixExpression (steps c) 0 c
  let c ← c.skip .comma
  let (as, c) ← arguments (steps c) .closeParen false false c
  let c ← Reading.leave c .closeParen
  return (⟨construct, table, as.positional, as.keywords⟩, c)

def readSpaced (construct : Construct) (c : Cursor) : Except ε (Invocation × Cursor) := do
  let (table, c) ← infixExpression (steps c) 0 c
  let (args, c) ← argumentsToEnd (steps c) c
  return (⟨construct, table, args, []⟩, c)

def readInvocation (s : String) : Except ε Invocation := do
  let head ← Cursor.start s 0
  let c ← head.advance
  match head.token with
  | .marker name =>
    let construct ← Construct.ofName name
    let (inv, c) ←
      if c.token = .openParen ∧ ¬c.current.gap.space then readBracketed steps construct c
      else readSpaced steps construct c
    c.finish
    return inv
  | other => fail (.expected "@construct" other.describe)

end Parse

open Parse

def parseExpr (s : String) : Except ParseError Expr := readExpr Cursor.budget s

def parseArgs (s : String) : Except ParseError Arguments := readArgs Cursor.budget s

def parseInvocation (s : String) : Except ParseError Invocation := readInvocation Cursor.budget s

end Tabular
