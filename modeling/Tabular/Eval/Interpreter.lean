import Tabular.Construct
import Tabular.Eval.Builtins
import Tabular.Expr.Render
import Tabular.Text.Quoted

namespace Tabular

abbrev Scope := Bindings Value

structure Interpreter where
  functions : Bindings Function
  byRow : String
  passMissing : String

namespace Interpreter

def ofConfig (config : Config) : Interpreter :=
  ⟨(∅ : Bindings Function).insertAll Builtins.functions, config.byRow, config.passMissing⟩

def callFunction (I : Interpreter) (name : String) (args : List Value) : EvalResult :=
  match I.functions.get? name with
  | some f => f args
  | none => .error (.unknownFunction name)

def variableIn (scope : Scope) (name : String) : EvalResult :=
  match scope.get? name with
  | some v => .ok v
  | none => .error (.unbound name)

def fieldOf (name : String) : Value → EvalResult
  | .record fields =>
    match fields.lookup name with
    | some v => .ok v
    | none => .error (.unbound name)
  | v => .error (.ofType "." v)

def unsupported (e : Expr) : EvalError := .unsupported e.render

mutual

/-- The value of an expression, given the values of columns. What has a meaning only inside an invocation or as a
function is not evaluated. -/
def evalWith (I : Interpreter) (columns : Column → Option Value) (scope : Scope) : Expr → EvalResult
  | .literal v => .ok v
  | .ident name => variableIn scope name
  | .quote name => .ok (.symbol name)
  | .column c =>
    match columns c with
    | some v => .ok v
    | none => .error (unsupported (.column c))
  | .call func args => do
    let vs ← evalItems I columns scope args
    applyWith I columns scope none vs func
  | .index target indices => do
    let v ← evalWith I columns scope target
    let vs ← evalItems I columns scope indices
    I.callFunction "getindex" (v :: vs)
  | .field target name => do fieldOf name (← evalWith I columns scope target)
  | .block lines => do
    match ← evalLines I columns scope none lines with
    | some v => return v
    | none => .error (unsupported (.block lines))
  | .tuple items => return .list (← evalItems I columns scope items)
  | .vector items => return .list (← evalItems I columns scope items)
  | .namedTuple fields => return .record (← evalFields I columns scope fields)
  | .interp target => .error (unsupported (.interp target))
  | .keyword name value => .error (unsupported (.keyword name value))
  | .assign sink value => .error (unsupported (.assign sink value))
  | .flagged flags inner => .error (unsupported (.flagged flags inner))
  | .lambda params body => .error (unsupported (.lambda params body))
  | .pair left right => .error (unsupported (.pair left right))

def evalItems (I : Interpreter) (columns : Column → Option Value) (scope : Scope) :
    List Expr → Except EvalError (List Value)
  | [] => .ok []
  | e :: es => do
    let v ← evalWith I columns scope e
    let vs ← evalItems I columns scope es
    return v :: vs

def evalFields (I : Interpreter) (columns : Column → Option Value) (scope : Scope) :
    List (String × Expr) → Except EvalError (List (String × Value))
  | [] => .ok []
  | (name, e) :: fields => do
    let v ← evalWith I columns scope e
    let vs ← evalFields I columns scope fields
    return (name, v) :: vs

def evalLines (I : Interpreter) (columns : Column → Option Value) (scope : Scope) (last : Option Value) :
    List Expr → Except EvalError (Option Value)
  | [] => .ok last
  | .assign (.ident name) value :: lines => do
    let v ← evalWith I columns scope value
    evalLines I columns (scope.insert name v) (some v) lines
  | .assign sink value :: _ => .error (unsupported (.assign sink value))
  | line :: lines => do
    let v ← evalWith I columns scope line
    evalLines I columns scope (some v) lines

/-- The value of a function at given arguments. Under the wrapper for rows a function is applied to every row of
the columns among the arguments, or of a table of `nrow` rows if there are none. -/
def applyWith (I : Interpreter) (columns : Column → Option Value) (scope : Scope) (nrow : Option Nat)
    (args : List Value) : Expr → EvalResult
  | .lambda params body =>
    if params.length = args.length then evalWith I columns (scope.insertAll (params.zip args)) body
    else .error (.arity (Expr.lambda params body).render params.length args.length)
  | .call func wrapped =>
    match func, wrapped with
    | .ident name, [inner] =>
      if name = I.byRow then do
        match (← Rows.commonLength args).or nrow with
        | none => applyWith I columns scope none args inner
        | some rows => return .list (← (List.range rows).mapM fun i =>
            applyWith I columns scope none (Rows.row args i) inner)
      else if name = I.passMissing then
        if args.any Value.isMissing then .ok .missing else applyWith I columns scope nrow args inner
      else .error (unsupported (.call func wrapped))
    | _, _ => .error (unsupported (.call func wrapped))
  | .ident name => I.callFunction name args
  | e => .error (unsupported e)

end

def eval (I : Interpreter) (scope : Scope) (e : Expr) : EvalResult := I.evalWith (fun _ => none) scope e

def call (I : Interpreter) (scope : Scope) (args : List Value) (f : Expr) : EvalResult :=
  I.applyWith (fun _ => none) scope none args f

def callRows (I : Interpreter) (scope : Scope) (nrow : Nat) (args : List Value) (f : Expr) : EvalResult :=
  I.applyWith (fun _ => none) scope (some nrow) args f

def register (I : Interpreter) (name : String) (f : Expr) : Interpreter :=
  { I with functions := I.functions.insert name fun args => I.call ∅ args f }

def registerAll (I : Interpreter) (functions : List (String × Expr)) : Interpreter :=
  functions.foldl (fun I (name, f) => I.register name f) I

def hasFunction (I : Interpreter) (name : String) : Bool := I.functions.contains name

def describe (I : Interpreter) : String :=
  "Interpreter \x7b functions: [" ++ ", ".intercalate (I.functions.names.map Text.escaped) ++ "], by_row: " ++
    Text.escaped I.byRow ++ ", pass_missing: " ++ Text.escaped I.passMissing ++ " \x7d"

end Interpreter

end Tabular
