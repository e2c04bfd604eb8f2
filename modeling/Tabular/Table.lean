import Tabular.Bind

namespace Tabular

structure Table where
  columns : List (String × Value)

namespace Table

def column? (t : Table) : Column → Option Value
  | .symbol name | .string name => t.columns.lookup name
  | .position n => if n = 0 then none else (t.columns[n - 1]?).map (·.2)
  | .dynamic _ => none

def height (t : Table) (default : Nat) : Nat :=
  match t.columns with
  | (_, .list items) :: _ => items.length
  | _ => default

inductive Failure where
  | noColumn (c : Column)
  | eval (e : EvalError)

def lookupAll (t : Table) : List Column → Except Failure (List Value)
  | [] => .ok []
  | c :: cs =>
    match t.column? c with
    | none => .error (.noColumn c)
    | some v => return v :: (← lookupAll t cs)

def runTriple (I : Interpreter) (scope : Scope) (nrow : Nat) (table : Table) (call : Call) (t : Triple) :
    Except Failure Value := do
  let values ← table.lookupAll t.sources
  (I.callRows scope nrow values (call.callable t)).mapError .eval

def run (I : Interpreter) (scope : Scope) (default : Nat) (table : Table) (call : Call) :
    List (Option Sink × Except Failure Value) :=
  call.triples.map fun t => (t.sink, table.runTriple I scope (table.height default) call t)

end Table

end Tabular
