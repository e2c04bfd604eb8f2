import Tabular.Closure
import Tabular.Construct
import Tabular.Expr.Resolve
import Tabular.Text.Character

namespace Tabular

inductive Sink where
  | column (c : Column)
  | generated (name : String)
  | asTable

namespace Sink

def render : Sink → String
  | column c => c.render
  | generated name => ":" ++ name
  | asTable => "AsTable"

def engineForm (config : Config) : Sink → Expr
  | column c => c.engineForm
  | generated name => .literal (.symbol name)
  | asTable => .ident config.asTable

def staticName? : Sink → Option String
  | column (.symbol name) | column (.string name) | generated name => some name
  | _ => none

def same : Sink → Sink → Bool
  | column c, column d => c.same d
  | generated a, generated b => a == b
  | asTable, asTable => true
  | _, _ => false

def ofColumn (c : Column) : Except Fault Sink :=
  match c with
  | .position _ => .error (.notColumn c.render "Int (a position cannot name a new column)")
  | c => .ok (column c)

def resolve (config : Config) (e : Expr) : Except Fault Sink :=
  match e with
  | .quote name => .ok (column (.symbol name))
  | .interp target => do ofColumn (← Column.interpolated target)
  | .column c => ofColumn c
  | .ident name =>
    if name = config.asTable then .ok asTable
    else .error (.malformed e.render "the target of `=` must be a column identifier")
  | e => .error (.malformed e.render "the target of `=` must be a column identifier")

end Sink

def Expr.operationWord : Expr → String
  | .call (.ident name) _ =>
    let base := Operator.undotted name
    (Operator.baseWord? base).getD (Text.stem base)
  | .index _ _ => "getindex"
  | .field _ name => Text.stem name
  | _ => "value"

def generatedName (config : Config) (sources : List Column) (value : Expr) : String :=
  config.sinkSeparator.intercalate (sources.map Column.stem ++ [value.operationWord])

end Tabular
