import Tabular.Expr.Basic
import Tabular.Operator

namespace Tabular

def parenthesized (wrap : Bool) (s : String) : String := if wrap then "(" ++ s ++ ")" else s

def commaSeparated (items : List String) : String := ", ".intercalate items

def tupleText (items : List String) : String :=
  "(" ++ commaSeparated items ++ (if items.length = 1 then ",)" else ")")

def paramsText : List String → String
  | [param] => param
  | params => "(" ++ commaSeparated params ++ ")"

def blockText (lines : List String) : String :=
  match lines with
  | [] => "begin end"
  | lines => "begin " ++ "; ".intercalate lines ++ " end"

def Expr.isBare : Expr → Bool
  | .ident _ | .literal _ => true
  | _ => false

def holeText (bare : Bool) (s : String) : String := if bare then "$" ++ s else "$(" ++ s ++ ")"

mutual

def Expr.renderAt (min : Nat) : Expr → String
  | .literal v => v.render
  | .ident name => name
  | .quote name => ":" ++ name
  | .interp e => holeText e.isBare (e.renderAt 0)
  | .column c => c.render
  | .call func args =>
    match func, args with
    | .ident op, [l, r] =>
      match Operator.binding? op with
      | some b =>
        parenthesized (b.level < min) (l.renderAt b.leftLevel ++ " " ++ op ++ " " ++ r.renderAt b.rightLevel)
      | none => op ++ "(" ++ l.renderAt 0 ++ ", " ++ r.renderAt 0 ++ ")"
    | .ident op, [e] =>
      if Operator.isUnary op then
        parenthesized (Operator.unaryLevel < min) (op ++ e.renderAt Operator.unaryLevel)
      else op ++ "(" ++ e.renderAt 0 ++ ")"
    | func, args => func.renderAt Operator.atomLevel ++ "(" ++ commaSeparated (Expr.renderItems args) ++ ")"
  | .keyword name value => name ++ " = " ++ value.renderAt 0
  | .index target indices =>
    target.renderAt Operator.atomLevel ++ "[" ++ commaSeparated (Expr.renderItems indices) ++ "]"
  | .field target name => target.renderAt Operator.atomLevel ++ "." ++ name
  | .assign sink value =>
    parenthesized (0 < min) (sink.renderAt Operator.atomLevel ++ " = " ++ value.renderAt 0)
  | .flagged flags inner => parenthesized (0 < min) ("@" ++ flags ++ " " ++ inner.renderAt 0)
  | .block lines => blockText (Expr.renderItems lines)
  | .tuple items => tupleText (Expr.renderItems items)
  | .namedTuple [] => "(;)"
  | .namedTuple fields => tupleText (Expr.renderFields fields)
  | .vector items => "[" ++ commaSeparated (Expr.renderItems items) ++ "]"
  | .lambda params body => parenthesized (0 < min) (paramsText params ++ " -> " ++ body.renderAt 0)
  | .pair left right =>
    parenthesized (Operator.pairLevel < min)
      (left.renderAt (Operator.pairLevel + 1) ++ " => " ++ right.renderAt Operator.pairLevel)

def Column.render : Column → String
  | .symbol name => ":" ++ name
  | .string name => "$" ++ Text.quoted name
  | .position n => "$" ++ n.repr
  | .dynamic e => holeText e.isBare (e.renderAt 0)

def Expr.renderItems : List Expr → List String
  | [] => []
  | e :: es => e.renderAt 0 :: Expr.renderItems es

def Expr.renderFields : List (String × Expr) → List String
  | [] => []
  | (name, e) :: fields => (name ++ " = " ++ e.renderAt 0) :: Expr.renderFields fields

end

def Expr.render (e : Expr) : String := e.renderAt 0

end Tabular
