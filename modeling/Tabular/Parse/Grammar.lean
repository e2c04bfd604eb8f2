import Tabular.Parse.Reading

namespace Tabular.Parse

def operandLevel : Nat := 70

variable {ε : Type} [Reading ε]

mutual

def argument : Nat → Cursor → Except ε (Expr × Cursor)
  | 0, _ => fail .exhausted
  | n + 1, c =>
    match c.token with
    | .marker flags => do
      let c ← c.advance
      let (inner, c) ← argument n c
      return (.flagged flags inner, c)
    | _ => do
      let (lhs, c) ← infixExpression n 0 c
      if c.token = .op "=" then
        let c ← c.advance
        let (value, c) ← argument n c
        return (.assign lhs value, c)
      else return (lhs, c)

def infixExpression : Nat → (min : Nat) → Cursor → Except ε (Expr × Cursor)
  | 0, _, _ => fail .exhausted
  | n + 1, min, c => do
    let (lhs, c) ← unaryExpression n c
    infixTail n min lhs c

def infixTail : Nat → (min : Nat) → (lhs : Expr) → Cursor → Except ε (Expr × Cursor)
  | 0, _, _, _ => fail .exhausted
  | n + 1, min, lhs, c =>
    match c.infixOperator? with
    | none => .ok (lhs, c)
    | some (op, binding) =>
      if binding.level < min then .ok (lhs, c)
      else do
        let c ← c.advance
        let (rhs, c) ← infixExpression n binding.rightLevel c
        let e ← infixExpr op lhs rhs
        infixTail n min e c

def unaryExpression : Nat → Cursor → Except ε (Expr × Cursor)
  | 0, _ => fail .exhausted
  | n + 1, c =>
    match c.token with
    | .op symbol =>
      if Operator.isUnary symbol then do
        let c ← c.advance
        let (operand, c) ← infixExpression n operandLevel c
        return (← Reading.unaryExpr symbol operand, c)
      else postfixExpression n c
    | _ => postfixExpression n c

def postfixExpression : Nat → Cursor → Except ε (Expr × Cursor)
  | 0, _ => fail .exhausted
  | n + 1, c => do
    let (e, c) ← primary n c
    postfixTail n e c

def postfixTail : Nat → Expr → Cursor → Except ε (Expr × Cursor)
  | 0, _, _ => fail .exhausted
  | n + 1, e, c =>
    if c.current.gap.space then .ok (e, c)
    else match c.token with
      | .openParen => do
        let c ← c.enter
        let (args, c) ← arguments n .closeParen true false c
        let c ← Reading.leave c .closeParen
        postfixTail n (.call e args.toList) c
      | .openBracket => do
        let c ← c.enter
        let (indices, c) ← items n .closeBracket c
        let c ← Reading.leave c .closeBracket
        postfixTail n (.index e indices) c
      | .dot => do
        let field ← c.advance
        let c ← field.advance
        match field.token with
        | .ident name => postfixTail n (.field e name) c
        | other => fail (.expected "field name" other.describe)
      | _ => .ok (e, c)

def primary : Nat → Cursor → Except ε (Expr × Cursor)
  | 0, _ => fail .exhausted
  | n + 1, c =>
    match c.token with
    | .int k => return (.literal (.int k), ← c.advance)
    | .float x => return (.literal (.float x), ← c.advance)
    | .str s => return (.literal (.str s), ← c.advance)
    | .quote name => return (.quote name, ← c.advance)
    | .ident "begin" => do
      let outer := c.depth
      let c ← c.advance
      let (lines, c) ← blockLines n { c with depth := 0 }
      return (.block lines, { c with depth := outer })
    | .ident name => return (wordExpr name, ← c.advance)
    | .dollar => do
      let c ← c.advance
      if c.token = .openParen then
        let c ← c.enter
        let (inner, c) ← infixExpression n 0 c
        let c ← Reading.leave c .closeParen
        return (.interp inner, c)
      else
        let (inner, c) ← primary n c
        return (.interp inner, c)
    | .marker _ => argument n c
    | .openParen => do
      let c ← c.enter
      if c.token = .semicolon then
        let c ← c.advance
        let c ← Reading.leave c .closeParen
        return (.namedTuple [], c)
      else
        let ((es, comma), c) ← tupleItems n c
        let c ← Reading.leave c .closeParen
        return (parenthesizedExpr es comma, c)
    | .openBracket => do
      let c ← c.enter
      let (es, c) ← items n .closeBracket c
      let c ← Reading.leave c .closeBracket
      return (.vector es, c)
    | .closeParen | .closeBracket | .comma | .semicolon | .dot | .op _ | .eof => fail (c.unexpected "expression")

def blockLines : Nat → Cursor → Except ε (List Expr × Cursor)
  | 0, _ => fail .exhausted
  | n + 1, c =>
    match c.token with
    | .semicolon => do
      let c ← c.advance
      blockLines n c
    | .ident "end" => return ([], ← c.advance)
    | .eof => fail .unexpectedEnd
    | _ => do
      let (line, c) ← argument n c
      if c.endsLine then
        let (lines, c) ← blockLines n c
        return (line :: lines, c)
      else fail (c.unexpected "newline, `;` or `end`")

def tupleItems : Nat → Cursor → Except ε ((List Expr × Bool) × Cursor)
  | 0, _ => fail .exhausted
  | n + 1, c =>
    if c.token = .closeParen then .ok (([], true), c)
    else do
      let (e, c) ← argument n c
      if c.token = .comma then
        let c ← c.advance
        let ((es, comma), c) ← tupleItems n c
        return ((e :: es, comma), c)
      else return (([e], false), c)

def items : Nat → (closing : Token) → Cursor → Except ε (List Expr × Cursor)
  | 0, _, _ => fail .exhausted
  | n + 1, closing, c =>
    if c.token = closing then .ok ([], c)
    else do
      let (e, c) ← argument n c
      if c.token = .comma then
        let c ← c.advance
        let (es, c) ← items n closing c
        return (e :: es, c)
      else return ([e], c)

def arguments : Nat → (closing : Token) → (named inKeywords : Bool) → Cursor → Except ε (Arguments × Cursor)
  | 0, _, _, _, _ => fail .exhausted
  | n + 1, closing, named, inKeywords, c =>
    if c.token = closing then .ok (⟨[], []⟩, c)
    else if c.token = .semicolon then do
      let c ← c.advance
      arguments n closing named true c
    else do
      let (e, c) ← argument n c
      let a ← argumentOf named inKeywords e
      if c.token = .comma then
        let c ← c.advance
        let (as, c) ← arguments n closing named inKeywords c
        return (as.cons a, c)
      else if c.token = .semicolon then
        let (as, c) ← arguments n closing named inKeywords c
        return (as.cons a, c)
      else return (Arguments.cons a ⟨[], []⟩, c)

end

def argumentsToEnd : Nat → Cursor → Except ε (List Expr × Cursor)
  | 0, _ => fail .exhausted
  | n + 1, c =>
    if c.token = .eof then .ok ([], c)
    else do
      let (e, c) ← argument n c
      let (es, c) ← argumentsToEnd n c
      return (e :: es, c)

end Tabular.Parse
