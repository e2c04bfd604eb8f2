import Tabular.Error
import Tabular.Expr.Render

namespace Tabular.Parse

def identName? : Expr → Option String
  | .ident name => some name
  | _ => none

def lambdaParams (lhs : Expr) : Except ParseError (List String) :=
  let params := match lhs with
    | .ident name => some [name]
    | .tuple items => items.mapM identName?
    | _ => none
  match params with
  | some names => .ok names
  | none => .error (.expected "lambda parameters" lhs.render)

def infixExpr (op : String) (lhs rhs : Expr) : Except ParseError Expr :=
  if op = "=>" then .ok (.pair lhs rhs)
  else if op = "->" then (lambdaParams lhs).map (.lambda · rhs)
  else .ok (.apply op [lhs, rhs])

def unaryExpr (op : String) (operand : Expr) : Expr :=
  if op = "+" then operand
  else match op, operand with
    | "-", .literal (.int n) => .literal (.int (-n))
    | "-", .literal (.float x) => .literal (.float (-x))
    | _, _ => .apply op [operand]

def wordExpr : String → Expr
  | "true" => .literal (.bool true)
  | "false" => .literal (.bool false)
  | "missing" => .literal .missing
  | name => .ident name

def named? : Expr → Option (String × Expr)
  | .assign (.ident name) value => some (name, value)
  | _ => none

def tupleExpr (items : List Expr) : Expr :=
  match items, items.mapM named? with
  | _ :: _, some fields => .namedTuple fields
  | _, _ => .tuple items

def parenthesizedExpr (items : List Expr) (comma : Bool) : Expr :=
  match items, comma with
  | [e], false => e
  | _, _ => tupleExpr items

inductive CallArgument where
  | positional (e : Expr)
  | keyword (name : String) (value : Expr)

/-- Behind the semicolon every argument is a keyword, and a bare name is a keyword with the variable of that name;
before it, an assignment to an identifier is a keyword where `named` says so. -/
def argumentOf (named inKeywords : Bool) (e : Expr) : Except ParseError CallArgument :=
  match inKeywords, named? e, e with
  | true, some (name, value), _ => .ok (.keyword name value)
  | true, none, .ident name => .ok (.keyword name (.ident name))
  | true, none, e => .error (.expected "keyword argument" e.render)
  | false, some (name, value), e => .ok (if named then .keyword name value else .positional e)
  | false, none, e => .ok (.positional e)

structure Arguments where
  positional : List Expr
  keywords : List (String × Expr)

def Arguments.cons (a : CallArgument) (as : Arguments) : Arguments :=
  match a with
  | .positional e => { as with positional := e :: as.positional }
  | .keyword name value => { as with keywords := (name, value) :: as.keywords }

def Arguments.toList (as : Arguments) : List Expr :=
  as.positional ++ as.keywords.map fun (name, value) => .keyword name value

end Tabular.Parse
